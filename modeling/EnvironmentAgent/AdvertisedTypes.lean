import EnvironmentAgent.RegisterAtomicity
import Mathlib.Data.List.Nodup

/-! # Advertised service types can be routed

The advertised types are read from the file and the health tracker, a route from the slots. -/
namespace AdvertisedTypes

open AtomicPrograms SequentialPrograms ProviderState ProviderValidation ProviderService
open RegistrationOutcomes EmbeddedIdentity ProviderIdentity RegistryAgreement RegisterAtomicity
open RoutingEffects (ProviderStatus)

/-- The status that `toAPI` reports: a record without a health state is stale. -/
def statusOf (s : AgentState) (p : StoredProvider) : ProviderStatus :=
  match s.states p.id with
  | some state => state.status
  | none => .unavailable

def advertisableServiceTypes (s : AgentState) : List String :=
  (s.records.filter fun p => statusOf s p ≠ .unavailable).map StoredProvider.serviceType

def resolveProvider (s : AgentState) (serviceType : String) :
    Option (StoredProvider × ProviderStatus) :=
  match s.slots serviceType with
  | none => none
  | some providerName =>
    match s.records.getByName providerName with
    | none => none
    | some sp => some (sp, if sp.id = "" then .unavailable else statusOf s sp)

structure Routable (s : AgentState) : Prop where
  nodup : (advertisableServiceTypes s).Nodup
  resolves : ∀ t ∈ advertisableServiceTypes s, ∃ p status,
    resolveProvider s t = some (p, status) ∧ status ≠ .unavailable

inductive Event where
  | call (c : Call)
  | result (id : String) (status : ProviderStatus) (time : Time)

def Event.body (cfg : ServiceConfig) (syn : URLSyntax) : Event → Registration Unit
  | .call c => c.body cfg syn
  | .result id status time => op (.setState id ⟨status, time⟩)

def Event.IsRestart : Event → Prop
  | .call c => ProviderIdentity.IsRestart c
  | .result _ _ _ => False

def Tracked (cfg : ServiceConfig) (s : AgentState) (id : String) : Prop :=
  s.states id ≠ none ∨ cfg.mon = true ∧ s.monitored id ≠ none

def TrackedSeated (cfg : ServiceConfig) (s : AgentState) : Prop :=
  ∀ p ∈ s.records, Tracked cfg s p.id → s.slots p.serviceType = some p.name

/-- A record that is registered again with another endpoint holds its slot. -/
def Renewable (s : AgentState) (input : RegistrationInput) : Prop :=
  ∀ p, s.records.getByName input.name = some p →
    ensureIDConsistency p.id input.providerID = none → p.serviceType = input.serviceType →
    p.endpoint ≠ input.endpoint → s.slots p.serviceType = some p.name

def Steady (cfg : ServiceConfig) (syn : URLSyntax) : Event → AgentState → Prop
  | .call (.createProvider request), s =>
    ∀ input, validateRequest syn request = .ok input → Renewable s input
  | .call c, s => Undisturbed c s
  | .result id _ _, s => cfg.mon = true ∧ s.monitored id ≠ none

section
variable {cfg : ServiceConfig} {s v u : AgentState} {p q : StoredProvider}

theorem mem_advertisable {t : String} : t ∈ advertisableServiceTypes s ↔
    ∃ p ∈ s.records, statusOf s p ≠ .unavailable ∧ p.serviceType = t := by
  simp [advertisableServiceTypes, and_assoc]

theorem tracked_of_status (h : statusOf s p ≠ .unavailable) : Tracked cfg s p.id := by
  left
  intro hnone
  simp [statusOf, hnone] at h

theorem resolveProvider_of_slot (hs : Kept s.records) (hp : p ∈ s.records)
    (hslot : s.slots p.serviceType = some p.name) :
    resolveProvider s p.serviceType = some (p, statusOf s p) := by
  simp only [resolveProvider, hslot, hs.getByName_eq hp rfl, if_neg (valid_id (hs.valid p hp))]

theorem TrackedSeated.routable (h : TrackedSeated cfg s) (hs : Kept s.records) : Routable s := by
  constructor
  · apply List.Nodup.map_on
    · intro p hp q hq heq
      obtain ⟨hp, hpstatus⟩ := List.mem_filter.mp hp
      obtain ⟨hq, hqstatus⟩ := List.mem_filter.mp hq
      have hpslot := h p hp (tracked_of_status (by simpa using hpstatus))
      have hqslot := h q hq (tracked_of_status (by simpa using hqstatus))
      rw [heq, hqslot] at hpslot
      exact hs.distinct.eq_of_name hp hq (Option.some.inj hpslot).symm
    · apply List.Nodup.filter
      exact List.Pairwise.imp (fun hapart heq => hapart.1 (congrArg StoredProvider.name heq))
        hs.distinct
  · intro t ht
    obtain ⟨p, hp, hstatus, rfl⟩ := mem_advertisable.mp ht
    exact ⟨p, _, resolveProvider_of_slot hs hp (h p hp (tracked_of_status hstatus)), hstatus⟩

theorem not_nodup (hp : p ∈ s.records) (hq : q ∈ s.records) (hne : p ≠ q)
    (heq : p.serviceType = q.serviceType) (hpstatus : statusOf s p ≠ .unavailable)
    (hqstatus : statusOf s q ≠ .unavailable) : ¬ (advertisableServiceTypes s).Nodup := by
  intro hnodup
  apply hne
  apply List.inj_on_of_nodup_map hnodup _ _ heq
  · exact List.mem_filter.mpr ⟨hp, by simpa using hpstatus⟩
  · exact List.mem_filter.mpr ⟨hq, by simpa using hqstatus⟩

theorem Tracked.of_tracks {id other : String} (ht : Tracks id v u) (hne : other ≠ id)
    (h : Tracked cfg u other) : Tracked cfg v other := by
  rcases h with hstate | ⟨hmon, hmonitored⟩
  · exact Or.inl (ht.states other hne ▸ hstate)
  · exact Or.inr ⟨hmon, ht.monitored other hne ▸ hmonitored⟩

theorem Tracked.of_cleaned {other : String} (hu : Cleaned cfg p v u) (h : Tracked cfg u other) :
    Tracked cfg v other ∧ other ≠ p.id := by
  have hne : other ≠ p.id := by
    intro heq
    subst heq
    rcases h with hstate | ⟨hmon, hmonitored⟩
    · simp [hu.states] at hstate
    · simp [hu.monitored, hmon] at hmonitored
  refine ⟨?_, hne⟩
  rcases h with hstate | ⟨hmon, hmonitored⟩
  · left
    rwa [hu.states, Function.update_of_ne hne] at hstate
  · right
    rw [hu.monitored, if_pos hmon, Function.update_of_ne hne] at hmonitored
    exact ⟨hmon, hmonitored⟩

theorem seated_save {slots : Slots} (hs : Kept s.records) (hsaves : Saves s q)
    (ht : Tracks q.id { s with records := s.records.save q, slots := slots } u)
    (hself : Tracked cfg u q.id → slots q.serviceType = some q.name)
    (hspares : s.slots.Spares q.name slots) (h : TrackedSeated cfg s) : TrackedSeated cfg u := by
  intro p hp htracked
  rw [ht.records] at hp
  rw [ht.slots]
  rcases hs.mem_save hsaves hp with rfl | ⟨hp, hname⟩
  · exact hself htracked
  · have hid : p.id ≠ q.id := fun heq => hname (hsaves.ids p hp heq)
    have hbefore := Tracked.of_tracks ht hid htracked
    exact hspares _ _ hname (h p hp hbefore)

theorem seated_claim (hs : Kept s.records) (hp : p ∈ s.records)
    (hfree : s.slots.otherHolder p.name p.serviceType = none)
    (ht : Tracks p.id { s with slots := Function.update s.slots p.serviceType (some p.name) } u)
    (h : TrackedSeated cfg s) : TrackedSeated cfg u := by
  intro q hq htracked
  have hq : q ∈ s.records := ht.records ▸ hq
  rw [ht.slots]
  by_cases heq : q = p
  · rw [heq]
    exact Function.update_self ..
  · have hname : q.name ≠ p.name := fun hname => heq (hs.distinct.eq_of_name hq hp hname)
    have hid : q.id ≠ p.id := fun hid => heq (hs.distinct.eq_of_id hq hp hid)
    have hbefore := Tracked.of_tracks ht hid htracked
    exact spares_update hfree _ _ hname (h q hq hbefore)

theorem seated_slots {slots : Slots} {name : String} (hspares : s.slots.Spares name slots)
    (hself : ∀ p ∈ s.records, p.name = name → Tracked cfg s p.id →
      slots p.serviceType = some p.name) (h : TrackedSeated cfg s) :
    TrackedSeated cfg { s with slots := slots } := by
  intro p hp htracked
  by_cases hname : p.name = name
  · exact hself p hp hname htracked
  · exact hspares _ _ hname (h p hp htracked)

theorem loaded_tracked (hl : Loaded p s u) (hs : Kept s.records) (hp : p ∈ s.records)
    (h : TrackedSeated cfg s) : TrackedSeated cfg u := by
  cases hl with
  | skipped => exact h
  | claimed _ hfree ht => exact seated_claim hs hp hfree ht h

theorem registered_tracked {input : RegistrationInput}
    {out : Except ServiceErr (StoredProvider × Bool)} (hr : Registered input s out u)
    (hs : Kept s.records) (hrenew : Renewable s input) (h : TrackedSeated cfg s) :
    TrackedSeated cfg u := by
  cases hr with
  | refused => exact h
  | @created id now _ hnone hfree hsaves ht =>
    exact seated_save (q := externalRecord id input now) hs hsaves ht
      (fun _ => Function.update_self ..) (spares_update hfree) h
  | unsaved hnone _ hfree =>
    exact seated_slots (spares_update hfree)
      (fun p hp hname => absurd hname (getByName_none hnone hp)) h
  | @kept p now _ hget hid hsame hsaves ht hquiet =>
    obtain ⟨hp, _⟩ := getByName_some hget
    refine seated_save (q := updated p input now) hs hsaves ht (fun htracked => ?_)
      Slots.Spares.rfl' h
    change s.slots input.serviceType = some p.name
    rw [← hsame]
    -- Only another endpoint gets the provider tracked that was not before.
    by_cases hendpoint : p.endpoint = input.endpoint
    · apply h p hp
      have hu := hquiet hendpoint
      subst hu
      exact htracked
    · exact hrenew p hget hid hsame hendpoint
  | @moved p now _ hget _ hne hmove hsaves ht =>
    refine seated_save (q := updated p input now) hs hsaves ht (fun _ => ?_) move_spares h
    rw [(move_granted hmove).2.2]
    exact Function.update_self ..
  | @movedBack p hget _ hne hmove =>
    refine seated_slots (move_spares.trans move_spares) (fun q hq hname _ => ?_) h
    rw [hs.distinct.eq_of_name hq (getByName_some hget).1 hname, move_back hne hmove]
    exact Function.update_self ..

theorem cleaned_tracked (hu : Cleaned cfg p v u) (h : TrackedSeated cfg v) :
    TrackedSeated cfg u := by
  intro q hq htracked
  rw [hu.slots]
  exact h q (hu.mem hq) (Tracked.of_cleaned hu htracked).1

theorem staled_tracked {enabled : List String} (hst : Staled cfg enabled p v u)
    (huniq : ∀ q ∈ v.records, q.name = p.name → q = p) (h : TrackedSeated cfg v) :
    TrackedSeated cfg u := by
  cases hst with
  | kept => exact h
  | removed _ _ hu =>
    intro q hq htracked
    obtain ⟨hbefore, hid⟩ := Tracked.of_cleaned hu htracked
    have hslot : v.slots q.serviceType = some q.name := h q (hu.mem hq) hbefore
    rw [hu.slots]
    dsimp only
    split
    · next hheld =>
      have hne : q.serviceType ≠ p.serviceType := by
        intro heq
        rw [heq, hheld] at hslot
        exact hid (huniq q (hu.mem hq) (Option.some.inj hslot).symm ▸ rfl)
      rw [Slots.release, Function.update_of_ne hne]
      exact hslot
    · exact hslot

theorem embedded_tracked {enabled : List String} {st : String} (he : Embedded cfg st v u)
    (hst : st ∈ enabled) (hv : Kept v.records) (hd : ¬ Disturbs enabled v)
    (h : TrackedSeated cfg v) : TrackedSeated cfg u := by
  cases he with
  | skipped => exact h
  | displaced _ _ _ hu => exact cleaned_tracked hu h
  | unsaved hnone hfree =>
    exact seated_slots (spares_update hfree)
      (fun p hp hname => absurd hname (getByName_none hnone hp)) h
  | @stale p _ hget htype hfree ht =>
    obtain ⟨hp, hname⟩ := getByName_some hget
    have hself : p.serviceType = p.name := by
      by_contra hne
      exact hd ⟨p, hp, htype, hname ▸ hst, hne, Or.inl (hname ▸ hfree)⟩
    apply seated_claim hv hp ?_ ?_ h
    · rw [hself, hname]
      exact hfree
    · rw [hself, hname]
      exact ht
  | @saved id createTime now _ hfree hsaves ht =>
    exact seated_save (q := embeddedRecord st id createTime now) hv hsaves ht
      (fun _ => Function.update_self ..) (spares_update hfree) h

end

variable {request : CreateProviderRequest}

section
variable {cfg : ServiceConfig} {syn : URLSyntax} {s v : AgentState} {p : StoredProvider}
  {input : RegistrationInput}

theorem track_unhealthy {id : String} (hid : id ≠ "") (endpoint st : String) :
    Allows act (trackExternalProvider cfg id endpoint st true) v fun r u => r = some () ∧
      Tracks id v u ∧ u.states id = some ⟨.unhealthy, 0⟩ := by
  apply allows_perform_bind.mpr
  refine ⟨(), _, ⟨trivial, rfl⟩, ?_⟩
  have htracks : Tracks id v (effect (.setState id ⟨.unhealthy, 0⟩) v ()) :=
    tracks_of_act (o := .setState _ _) rfl ⟨trivial, rfl⟩
  have hstate : (effect (.setState id ⟨.unhealthy, 0⟩) v ()).states id =
      some ⟨.unhealthy, 0⟩ := by
    simp [effect, hid]
  change Allows act (if cfg.mon then _ else _) _ _
  split
  · refine ⟨.stopped, _, ⟨fun _ h => (by cases h), rfl⟩, rfl, ?_⟩
    exact ⟨htracks, hstate⟩
  · exact ⟨rfl, htracks, hstate⟩

theorem createProvider_renews (hin : validateRequest syn request = .ok input) (hs : Kept s.records)
    (hget : s.records.getByName input.name = some p)
    (hid : ensureIDConsistency p.id input.providerID = none)
    (hsame : p.serviceType = input.serviceType) (hendpoint : p.endpoint ≠ input.endpoint) :
    Allows act (createProvider cfg syn request) s fun _ u =>
      Tracks p.id { s with records := s.records.save (updated p input 1) } u ∧
        u.states p.id = some ⟨.unhealthy, 0⟩ := by
  have hvalid := hs.valid p (getByName_some hget).1
  simp only [createProvider, hin]
  apply allows_bind.mpr
  apply allows_perform_bind.mpr
  refine ⟨some (some p), s, ⟨Or.inr (congrArg some hget.symm), rfl⟩, ?_⟩
  change Allows act (registerExisting cfg p input) _ _
  simp only [registerExisting, hid, updateRegistration, hsame, ne_eq, not_true, if_false]
  apply allows_bind.mpr
  refine ⟨1, s, ⟨Nat.one_ne_zero, rfl⟩, true, _,
    ⟨fun _ => updated_valid hvalid (validateRequest_admissible hin), rfl⟩, ?_⟩
  change Allows act (if p.endpoint ≠ input.endpoint ∨ (false : Bool) then _ else _) _ _
  rw [if_pos (Or.inl hendpoint)]
  apply allows_bind.mpr
  apply (track_unhealthy (valid_id hvalid) _ _).mono
  rintro r u ⟨rfl, ht, hstate⟩
  exact ⟨ht, hstate⟩

theorem renewed_not_routable {u : AgentState} (hs : Kept s.records) (ha : Agreement s)
    (hsame : p.serviceType = input.serviceType) (hsaves : Saves s (updated p input 1))
    (hslot : s.slots p.serviceType ≠ some p.name)
    (ht : Tracks p.id { s with records := s.records.save (updated p input 1) } u)
    (hstate : u.states p.id = some ⟨.unhealthy, 0⟩) : ¬ Routable u := by
  intro hroutable
  have hmem : updated p input 1 ∈ u.records := ht.records ▸ mem_save_self
  have hup : statusOf u (updated p input 1) ≠ .unavailable := by
    have hid : (updated p input 1).id = p.id := rfl
    simp [statusOf, hid, hstate]
  obtain ⟨q, status, hresolves, hstatus⟩ := hroutable.resolves p.serviceType
    (mem_advertisable.mpr ⟨_, hmem, hup, hsame.symm⟩)
  -- Whoever holds the slot is another provider of the same service type.
  have hslots : u.slots = s.slots := ht.slots
  cases hholder : s.slots p.serviceType with
  | none => simp [resolveProvider, hslots, hholder] at hresolves
  | some name =>
    have hname : name ≠ p.name := fun heq => hslot (hholder.trans (congrArg some heq))
    obtain ⟨r, hr, rfl, hrtype⟩ := ha _ _ hholder
    have hru : r ∈ u.records := ht.records ▸ mem_save_of_ne hr hname
    have hu : Kept u.records := ht.records ▸ hs.save hsaves
    have hrslot : u.slots r.serviceType = some r.name := by rw [hslots, hrtype, hholder]
    rw [← hrtype, resolveProvider_of_slot hu hru hrslot] at hresolves
    cases hresolves
    exact not_nodup hmem hru (fun heq => hname (congrArg StoredProvider.name heq).symm)
      (hsame.symm.trans hrtype.symm) hup hstatus hroutable.nodup

end

section
variable {cfg : ServiceConfig} {syn : URLSyntax} {s : AgentState}

structure Consistent (cfg : ServiceConfig) (s : AgentState) : Prop where
  kept : Kept s.records
  agreement : Agreement s
  seated : TrackedSeated cfg s

theorem consistent_restarted {ps : Records} (h : Kept ps) : Consistent cfg (.restarted ps) := by
  refine ⟨h, agreement_restarted ps, fun p _ htracked => ?_⟩
  rcases htracked with hstate | ⟨_, hmonitored⟩
  · exact absurd rfl hstate
  · exact absurd rfl hmonitored

theorem createProvider_consistent (h : Consistent cfg s)
    (hrenew : ∀ input, validateRequest syn request = .ok input → Renewable s input) :
    Along act (fun v u => Kept v.records → Kept u.records) (createProvider cfg syn request) s
      fun _ u => Consistent cfg u := by
  apply (createProvider_along cfg syn request
    (I := fun u => Agreement u ∧ TrackedSeated cfg u) h.kept ⟨h.agreement, h.seated⟩
    (fun v u hr hv => evolves_keeps h.kept hr hv)
    fun input out u hin hr => ⟨registered_agreement hr h.kept h.agreement,
      registered_tracked hr h.kept (hrenew input hin) h.seated⟩).mono (fun _ _ hr => hr)
  exact fun _ u hu => ⟨hu.2.1, hu.2.2.1, hu.2.2.2⟩

theorem event_consistent (e : Event)
    (h : Consistent cfg s ∨ e.IsRestart ∧ Kept s.records) (he : Steady cfg syn e s) :
    Along act (fun v u => Kept v.records → Kept u.records) (e.body cfg syn) s fun _ u =>
      Consistent cfg u := by
  have hsame : ∀ v u : AgentState, u.records = v.records → Kept v.records → Kept u.records :=
    fun v u heq hv => heq ▸ hv
  have hkept : Kept s.records := h.elim (fun h => h.kept) fun h => h.2
  cases e with
  | result id status time =>
    have h : Consistent cfg s := h.resolve_right fun h => h.1
    intro _ u hset
    refine ⟨hsame s u (records_kept (o := .setState _ _) (fun h => h) hset), ?_⟩
    have ht : Tracks id s u := tracks_of_act (o := .setState _ _) rfl hset
    have hmonitored : u.monitored = s.monitored := by
      obtain ⟨_, rfl⟩ := hset
      simp only [effect]
      split <;> rfl
    refine ⟨ht.records ▸ h.kept, fun t name hslot => ?_, fun p hp htracked => ?_⟩
    · rw [ht.records]
      exact h.agreement t name (ht.slots ▸ hslot)
    · rw [ht.slots]
      apply h.seated p (ht.records ▸ hp)
      by_cases hid : p.id = id
      · exact Or.inr ⟨he.1, hid ▸ he.2⟩
      · exact Tracked.of_tracks ht hid htracked
  | call c =>
    cases c with
    | restart =>
      exact (restart_along cfg syn hsame
        (consistent_restarted hkept)).mono (fun _ _ hr => hr)
        fun _ u hu => hu.2
    | loadPersisted =>
      have h : Consistent cfg s := h.resolve_right fun h => h.1
      apply along_bind.mpr
      apply (loadPersisted_along cfg (I := fun u => Agreement u ∧ TrackedSeated cfg u) hsame
        ⟨h.agreement, h.seated⟩ fun p hp v u hv hi hl =>
          ⟨loaded_agreement hl (hv ▸ hp) hi.1,
            loaded_tracked hl (hv.symm ▸ hkept) (hv.symm ▸ hp) hi.2⟩).mono (fun _ _ hr => hr)
      rintro r u ⟨⟨err, rfl⟩, hrecords, hagree, hseated⟩
      exact Consistent.mk (hrecords.symm ▸ hkept) hagree hseated
    | registerEmbedded types =>
      have h : Consistent cfg s := h.resolve_right fun h => h.1
      apply (registerEmbedded_along cfg types
        (I := fun u => (Agreement u ∧ ¬ Disturbs (enabledTypes types) u) ∧ TrackedSeated cfg u)
        hkept ⟨⟨h.agreement, he⟩, h.seated⟩
        (fun w v u hw _ hr hv => evolves_keeps hw hr hv)
        (fun p v u _ huniq hi hst => ⟨⟨staled_agreement hst huniq hi.1.1,
          staled_undisturbed hst hi.1.2⟩, staled_tracked hst huniq hi.2⟩)
        fun st hst v u hv hi hembed => ⟨⟨embedded_agreement hembed hst hv hi.1.2 hi.1.1,
          embedded_undisturbed hembed hi.1.2⟩,
          embedded_tracked hembed hst hv hi.1.2 hi.2⟩).mono (fun _ _ hr => hr)
      exact fun _ u hu => ⟨hu.2.1, hu.2.2.1.1, hu.2.2.2⟩
    | createProvider request =>
      have h : Consistent cfg s := h.resolve_right fun h => h.1
      exact createProvider_consistent h he

/-- In every state between calls and results, if the calls met their conditions, each advertised
service type is advertised once and resolves to a provider that is not unavailable. In such a
state a request keeps it so in all its outcomes exactly if what it renews holds its slot. -/
theorem advertised_routable_iff {p : Registration Unit}
    (h : Reached act (Event.body cfg syn) (Steady cfg syn) Event.IsRestart (.restarted []) (p, s))
    (hp : Ended p) :
    Routable s ∧ ∀ request input, validateRequest syn request = .ok input →
      ((∀ r u, Performs act (createProvider cfg syn request) s r u → Routable u) ↔
        Renewable s input) := by
  obtain ⟨_, halong⟩ := Reached.along h (consistent_restarted Kept.nil)
    (J := fun u => Kept u.records) (fun _ hv => hv.kept) (fun _ _ hr hv => hr hv)
    fun e v hv he => event_consistent e hv he
  have hs : Consistent cfg s := halong.of_ended hp
  refine ⟨hs.seated.routable hs.kept, fun request input hin => ?_⟩
  constructor
  · intro hall q hget hid hsame hendpoint
    by_contra hslot
    obtain ⟨r, u, hperforms, ht, hstate⟩ := allows_iff.mp
      (createProvider_renews hin hs.kept hget hid hsame hendpoint)
    have hvalid := updated_valid (hs.kept.valid q (getByName_some hget).1)
      (validateRequest_admissible hin)
    exact renewed_not_routable hs.kept hs.agreement hsame
      (updated_saves hs.kept hget (Or.inl hsame) hvalid) hslot ht hstate (hall r u hperforms)
  · intro hrenew r u hperforms
    have hcall := createProvider_consistent hs fun input' hin' => by
      rw [hin] at hin'
      cases hin'
      exact hrenew
    have hu := ensures_iff.mp hcall.ensures r u hperforms
    exact hu.seated.routable hu.kept

end

def renewRequest : CreateProviderRequest := ⟨none, "vm", "http://sp", "vm", "v1", none, none, []⟩

theorem advertised_routable_vm :
    ∃ p s, Reached act (Event.body monitoring plainSyntax) (Steady monitoring plainSyntax)
        Event.IsRestart (.restarted []) (p, s) ∧ Ended p ∧
      advertisableServiceTypes s = ["vm"] ∧ Routable s ∧
      ((∀ r u, Performs act (createProvider monitoring plainSyntax renewRequest) s r u →
        Routable u) ↔ Renewable s renewInput) := by
  obtain ⟨r, s, hp, hrecords, _, hstate⟩ := allows_iff.mp vm_registers
  have hcalls : Calls act (Event.body monitoring plainSyntax) (Steady monitoring plainSyntax)
      (.restarted []) [.call (.registerEmbedded ["vm"])] s := by
    apply Calls.snoc (.nil _) ?_ (c := Event.call (.registerEmbedded ["vm"])) hp
    rintro ⟨q, hq, _⟩
    cases hq
  obtain ⟨p, hended, hreached⟩ := hcalls.reached Event.IsRestart
  have htheorem := advertised_routable_iff hreached hended
  refine ⟨p, s, hreached, hended, ?_, htheorem.1, htheorem.2 renewRequest renewInput (by decide)⟩
  have hid : vmRecord.id = "u1" := rfl
  simp [advertisableServiceTypes, hrecords, statusOf, hid, hstate]
  rfl

/-- The record without its slot is renewed with a new endpoint: it is tracked again and its service
type is advertised next to that of the provider that holds the slot. -/
theorem vm_advertised_twice :
    ∃ s, Calls act (Event.body monitoring plainSyntax) (fun _ _ => True) (.restarted [])
        [.call (.registerEmbedded ["vm"]), .call .restart, .call .loadPersisted,
          .call (.registerEmbedded []), .call (.createProvider extRequest),
          .call (.createProvider renewRequest)] s ∧
      advertisableServiceTypes s = ["vm", "vm"] := by
  obtain ⟨s, hcalls, _, hrecords, hext⟩ := ext_takes_slot
  have hevents : Calls act (Event.body monitoring plainSyntax) (fun _ _ => True) (.restarted [])
      (List.map Event.call [.registerEmbedded ["vm"], .restart, .loadPersisted,
        .registerEmbedded [], .createProvider extRequest]) s :=
    hcalls.map Event.call (fun _ => rfl) (fun _ _ _ => trivial)
  have hget : s.records.getByName renewInput.name = some vmRecord := by
    rw [hrecords]
    rfl
  have hkept : Kept s.records := by
    rw [hrecords]
    exact ⟨by simp [Records.Distinct, Apart]; decide, by decide⟩
  have hallows : Allows act (createProvider monitoring plainSyntax renewRequest) s _ :=
    createProvider_renews (by decide) hkept hget rfl rfl (by decide)
  obtain ⟨_, u, hrenew, ht, hvm⟩ := allows_iff.mp hallows
  refine ⟨u, hevents.snoc trivial (c := Event.call (.createProvider renewRequest)) hrenew, ?_⟩
  have hurecords : u.records = [updated vmRecord renewInput 1, externalRecord "u2" extInput 1] := by
    rw [ht.records]
    dsimp only
    rw [hrecords]
    rfl
  have huext : u.states "u2" = some ⟨.unhealthy, 0⟩ := (ht.states "u2" (by decide)).trans hext
  have hvm : u.states "u1" = some ⟨.unhealthy, 0⟩ := hvm
  have hid : (updated vmRecord renewInput 1).id = "u1" := rfl
  have hid' : (externalRecord "u2" extInput 1).id = "u2" := rfl
  simp [advertisableServiceTypes, hurecords, statusOf, hid, hid', hvm, huext]
  exact ⟨rfl, rfl⟩

end AdvertisedTypes
