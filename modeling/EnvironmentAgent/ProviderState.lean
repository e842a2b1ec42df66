import EnvironmentAgent.RoutingEffects
import Mathlib.Data.List.Pairwise

/-! # What a registration is kept in

`provider/store/file.go`, the `Registry` of `provider/provider.go`, the health tracker and the
entries of the health monitor. The file is the list of its records. -/
namespace ProviderState

open RoutingCloudEvent (Bytes)
open RoutingEffects (ProviderStatus)

abbrev Time := ℕ

inductive ProviderType where
  | external
  | embedded
  deriving DecidableEq, Repr

structure StoredProvider where
  id : String
  name : String
  endpoint : String
  serviceType : String
  schemaVersion : String
  displayName : Option String
  operations : Option (List String)
  metadata : Bytes
  type : ProviderType
  createTime : Time
  updateTime : Time
  deriving DecidableEq, Repr

def validateStoredProvider (p : StoredProvider) : Option String :=
  if p.id = "" then some "missing id"
  else if p.name = "" then some "missing name"
  else if p.serviceType = "" then some "missing service_type"
  else if p.schemaVersion = "" then some "missing schema_version"
  else if p.createTime = 0 then some "missing create_time"
  else if p.updateTime = 0 then some "missing update_time"
  else none

abbrev Records := List StoredProvider

def Records.save (p : StoredProvider) : Records → Records
  | [] => [p]
  | q :: qs => if q.name = p.name then p :: qs else q :: Records.save p qs

def Records.delete (name : String) (ps : Records) : Records := ps.filter fun p => p.name ≠ name
def Records.getByName (name : String) (ps : Records) : Option StoredProvider :=
  ps.find? fun p => p.name = name
def Records.getByID (id : String) (ps : Records) : Option StoredProvider :=
  ps.find? fun p => p.id = id

def Apart (p q : StoredProvider) : Prop := p.name ≠ q.name ∧ p.id ≠ q.id

instance : Std.Symm Apart := ⟨fun _ _ h => ⟨h.1.symm, h.2.symm⟩⟩

def Records.Distinct (ps : Records) : Prop := ps.Pairwise Apart

section
variable {ps : Records} {p q : StoredProvider} {name id : String}

theorem mem_of_mem_save (h : q ∈ ps.save p) : q = p ∨ q ∈ ps := by
  induction ps with
  | nil => exact Or.inl (List.mem_singleton.mp h)
  | cons r rs ih =>
    simp only [Records.save] at h
    split at h
    · exact (List.mem_cons.mp h).imp_right (List.mem_cons_of_mem r)
    · rcases List.mem_cons.mp h with heq | h
      · exact Or.inr (heq ▸ List.mem_cons_self)
      · exact (ih h).imp_right (List.mem_cons_of_mem r)

theorem mem_save_self : p ∈ ps.save p := by
  induction ps with
  | nil => exact List.mem_singleton_self p
  | cons r rs ih =>
    simp only [Records.save]
    split
    · exact List.mem_cons_self
    · exact List.mem_cons_of_mem r ih

theorem mem_save_of_ne (h : q ∈ ps) (hne : q.name ≠ p.name) : q ∈ ps.save p := by
  induction ps with
  | nil => cases h
  | cons r rs ih =>
    simp only [Records.save]
    rcases List.mem_cons.mp h with rfl | h
    · rw [if_neg hne]
      exact List.mem_cons_self
    · split
      · exact List.mem_cons_of_mem p h
      · exact List.mem_cons_of_mem r (ih h)

theorem Records.Distinct.save (h : ps.Distinct) (hid : ∀ q ∈ ps, q.id = p.id → q.name = p.name) :
    (ps.save p).Distinct := by
  induction ps with
  | nil => exact List.pairwise_singleton _ p
  | cons r rs ih =>
    obtain ⟨hr, hrs⟩ := List.pairwise_cons.mp h
    have hidrs : ∀ q ∈ rs, q.id = p.id → q.name = p.name := fun q hq =>
      hid q (List.mem_cons_of_mem r hq)
    simp only [Records.save]
    split
    · next heq =>
      apply List.pairwise_cons.mpr
      refine ⟨fun q hq => ?_, hrs⟩
      have hname : p.name ≠ q.name := heq ▸ (hr q hq).1
      exact ⟨hname, fun hpq => hname (hidrs q hq hpq.symm).symm⟩
    · next hne =>
      apply List.pairwise_cons.mpr
      refine ⟨fun q hq => ?_, ih hrs hidrs⟩
      rcases mem_of_mem_save hq with rfl | hq
      · exact ⟨hne, fun hpq => hne (hid r List.mem_cons_self hpq)⟩
      · exact hr q hq

theorem Records.Distinct.delete (h : ps.Distinct) (name : String) : (ps.delete name).Distinct :=
  h.filter _

theorem Records.Distinct.eq_of_name (h : ps.Distinct) (hp : p ∈ ps) (hq : q ∈ ps)
    (hname : p.name = q.name) : p = q := by
  by_contra hne
  exact (List.Pairwise.forall h hp hq hne).1 hname

theorem Records.Distinct.eq_of_id (h : ps.Distinct) (hp : p ∈ ps) (hq : q ∈ ps)
    (hid : p.id = q.id) : p = q := by
  by_contra hne
  exact (List.Pairwise.forall h hp hq hne).2 hid

theorem getByName_some (h : ps.getByName name = some p) : p ∈ ps ∧ p.name = name :=
  ⟨List.mem_of_find?_eq_some h, by simpa using List.find?_some h⟩

theorem getByName_none (h : ps.getByName name = none) (hp : p ∈ ps) : p.name ≠ name := by
  simpa using List.find?_eq_none.mp h p hp

theorem getByID_none (h : ps.getByID id = none) (hp : p ∈ ps) : p.id ≠ id := by
  simpa using List.find?_eq_none.mp h p hp

end

abbrev Slots := String → Option String

def servedBy (serviceType holder : String) : String :=
  "service type '" ++ serviceType ++ "' is already served by provider '" ++ holder ++ "'"

def heldByOther (oldType holder providerName : String) : String :=
  "cannot move from service type '" ++ oldType ++ "': it is held by a different provider '" ++
    holder ++ "', not '" ++ providerName ++ "'"

def Slots.otherHolder (slots : Slots) (providerName serviceType : String) : Option String :=
  (slots serviceType).filter fun holder => holder ≠ providerName

def Slots.claim (slots : Slots) (providerName serviceType : String) : Option String × Slots :=
  match slots.otherHolder providerName serviceType with
  | some holder => (some (servedBy serviceType holder), slots)
  | none => (none, Function.update slots serviceType (some providerName))

def Slots.release (slots : Slots) (serviceType : String) : Slots :=
  Function.update slots serviceType none

def Slots.move (slots : Slots) (providerName oldType newType : String) : Option String × Slots :=
  match slots.otherHolder providerName newType, slots.otherHolder providerName oldType with
  | some holder, _ => (some (servedBy newType holder), slots)
  | none, some holder => (some (heldByOther oldType holder providerName), slots)
  | none, none =>
    (none, Function.update (slots.release oldType) newType (some providerName))

def Slots.Spares (name : String) (slots slots' : Slots) : Prop :=
  ∀ serviceType holder, holder ≠ name → slots serviceType = some holder →
    slots' serviceType = some holder

section
variable {slots slots' : Slots} {name oldType newType serviceType : String}

theorem Slots.Spares.rfl' : slots.Spares name slots := fun _ _ _ h => h

theorem Slots.Spares.trans {slots'' : Slots} (h : slots.Spares name slots')
    (h' : slots'.Spares name slots'') : slots.Spares name slots'' :=
  fun t holder hne hs => h' t holder hne (h t holder hne hs)

theorem spares_update {v : Option String} (h : slots.otherHolder name serviceType = none) :
    slots.Spares name (Function.update slots serviceType v) := by
  intro t holder hne hs
  by_cases ht : t = serviceType
  · subst ht
    simp [Slots.otherHolder, hs, hne] at h
  · rw [Function.update_of_ne ht]
    exact hs

theorem move_spares : slots.Spares name (slots.move name oldType newType).2 := by
  simp only [Slots.move]
  split
  · exact Slots.Spares.rfl'
  · exact Slots.Spares.rfl'
  · next hnew hold =>
    have hrelease : slots.Spares name (slots.release oldType) := spares_update hold
    apply hrelease.trans
    apply spares_update
    by_cases ht : newType = oldType
    · simp [Slots.otherHolder, Slots.release, ht]
    · simp only [Slots.otherHolder, Slots.release, Function.update_of_ne ht]
      exact hnew

theorem claim_granted (h : (slots.claim name serviceType).1 = none) :
    slots.otherHolder name serviceType = none ∧
      (slots.claim name serviceType).2 = Function.update slots serviceType (some name) := by
  simp only [Slots.claim] at h ⊢
  split at h
  · cases h
  · next hfree => exact ⟨hfree, rfl⟩

theorem move_granted (h : (slots.move name oldType newType).1 = none) :
    slots.otherHolder name newType = none ∧ slots.otherHolder name oldType = none ∧
      (slots.move name oldType newType).2 =
        Function.update (slots.release oldType) newType (some name) := by
  simp only [Slots.move] at h ⊢
  split at h
  · cases h
  · cases h
  · next hnew hold => exact ⟨hnew, hold, rfl⟩

theorem move_back (hne : oldType ≠ newType) (h : (slots.move name oldType newType).1 = none) :
    ((slots.move name oldType newType).2.move name newType oldType).2 =
      Function.update (slots.release newType) oldType (some name) := by
  obtain ⟨_, _, hmoved⟩ := move_granted h
  have hnew : Slots.otherHolder (Function.update (slots.release oldType) newType (some name)) name
      newType = none := by
    simp [Slots.otherHolder]
  have hold : Slots.otherHolder (Function.update (slots.release oldType) newType (some name)) name
      oldType = none := by
    simp [Slots.otherHolder, Slots.release, hne]
  rw [hmoved]
  simp only [Slots.move, hnew, hold]
  simp only [Slots.release, Function.update_idem]
  rw [Function.update_comm hne, Function.update_idem]

theorem otherHolder_none (h : slots.otherHolder name serviceType = none) :
    slots serviceType = none ∨ slots serviceType = some name := by
  cases hs : slots serviceType with
  | none => exact Or.inl rfl
  | some holder =>
    by_cases heq : holder = name
    · exact Or.inr (congrArg some heq)
    · simp [Slots.otherHolder, hs, heq] at h

theorem otherHolder_of_ne {holder : String} (hs : slots serviceType = some holder)
    (hne : holder ≠ name) : slots.otherHolder name serviceType = some holder := by
  simp [Slots.otherHolder, hs, hne]

theorem move_refused {e : String} (h : (slots.move name oldType newType).1 = some e) :
    (slots.move name oldType newType).2 = slots := by
  simp only [Slots.move] at h ⊢
  split at h <;> first | rfl | cases h

theorem claim_refused {e : String} (h : (slots.claim name serviceType).1 = some e) :
    slots.otherHolder name serviceType ≠ none ∧ (slots.claim name serviceType).2 = slots := by
  simp only [Slots.claim] at h ⊢
  split at h
  · next hheld => exact ⟨by simp [hheld], rfl⟩
  · cases h

end

/-- Polls the endpoint of an external provider, or runs an in-process check. -/
inductive Checker where
  | external (endpoint : String)
  | supplied (serviceType : String)
  | default (serviceType : String)
  deriving DecidableEq, Repr

structure HealthState where
  status : ProviderStatus
  lastCheckTime : Time
  deriving DecidableEq, Repr

structure MonitorEntry where
  checker : Checker
  serviceType : String
  deriving DecidableEq, Repr

structure AgentState where
  records : Records
  slots : Slots
  states : String → Option HealthState
  monitored : String → Option MonitorEntry

def AgentState.restarted (records : Records) : AgentState :=
  ⟨records, fun _ => none, fun _ => none, fun _ => none⟩

end ProviderState
