import EnvironmentAgent.SequentialPrograms
import Mathlib.Data.List.Basic
import Mathlib.Data.List.Nodup
import Mathlib.Data.Int.Notation

/-! # Labelled objects behind an unreliable API

An object has labels, and a name that is unique within its kind. Clients list the objects a selector
matches, create an object under a given or a generated name, and delete one by name. A call that
fails may have taken effect all the same, and a deleted object may stay listed. -/
namespace ObjectStore

open AtomicPrograms SequentialPrograms

abbrev Labels := List (String × String)

abbrev Selector := List (String × String)

def Selector.holds (s : Selector) (l : Labels) : Bool :=
  s.all fun r => l.lookup r.1 == some r.2

inductive NameRequest where
  | fixed (name : String)
  | generate (base : String)
  deriving DecidableEq, Repr

def NameRequest.Grants : NameRequest → String → Prop
  | .fixed name, n => n = name
  | .generate base, n => ∃ rest, n = base ++ rest

structure Manifest (B : Type) where
  name : NameRequest
  labels : Labels
  body : B
  deriving DecidableEq, Repr

structure Object (B : Type) where
  name : String
  labels : Labels
  body : B
  deriving DecidableEq, Repr

inductive Reason where
  | alreadyExists
  | notFound
  | other
  deriving DecidableEq, Repr

/-- An error without a status code never reached the server, or its reply never came back. -/
structure ApiError where
  reason : Reason
  code : Option ℤ
  message : String
  deriving DecidableEq, Repr

/-- A selector of valid labels is read back as it was sent; any other may be read as anything. -/
structure Server where
  valid : String × String → Bool
  reads : Selector → Option (Labels → Bool)
  reads_valid : ∀ s, (∀ r ∈ s, valid r = true) → reads s = some s.holds

def Server.strict (valid : String × String → Bool) : Server where
  valid := valid
  reads s := if s.all valid then some s.holds else none
  reads_valid _ h := if_pos (List.all_eq_true.mpr h)

structure Store (K B : Type) where
  objects : K → List (Object B)
  distinct : ∀ k, ((objects k).map Object.name).Nodup

variable {K B : Type} {k k' : K} {w v : Store K B} {o : Object B} {srv : Server} {s : Selector}
  {m : Manifest B} {key : String}

def Store.names (w : Store K B) (k : K) : List String := (w.objects k).map Object.name

def matching (srv : Server) (w : Store K B) (k : K) (s : Selector) : List (Object B) :=
  match srv.reads s with
  | none => []
  | some f => (w.objects k).filter fun o => f o.labels

theorem mem_matching (hs : ∀ r ∈ s, srv.valid r = true) :
    o ∈ matching srv w k s ↔ o ∈ w.objects k ∧ s.holds o.labels = true := by
  rw [matching, srv.reads_valid s hs]
  exact List.mem_filter

theorem reads_of_matching (h : o ∈ matching srv w k s) : (srv.reads s).isSome := by
  by_contra hnone
  rw [Option.not_isSome_iff_eq_none] at hnone
  rw [matching, hnone] at h
  cases h

theorem names_of_matching (h : o ∈ matching srv w k s) : o.name ∈ w.names k := by
  rw [matching] at h
  split at h
  · cases h
  · exact List.mem_map_of_mem (List.mem_filter.mp h).1

theorem matching_congr (h : v.objects k = w.objects k) :
    matching srv v k s = matching srv w k s := by
  rw [matching, matching, h]

theorem matching_nil : matching srv w k [] = w.objects k := by
  rw [matching, srv.reads_valid [] (by simp)]
  exact List.filter_eq_self.mpr fun o _ => rfl

theorem matching_distinct : ((matching srv w k s).map Object.name).Nodup := by
  rw [matching]
  split
  · exact List.nodup_nil
  · exact (List.filter_sublist.map Object.name).nodup (w.distinct k)

variable [DecidableEq K]

def Store.empty : Store K B where
  objects _ := []
  distinct _ := List.nodup_nil

def Store.insert (w : Store K B) (k : K) (o : Object B) (h : o.name ∉ w.names k) :
    Store K B where
  objects := Function.update w.objects k (w.objects k ++ [o])
  distinct j := by
    by_cases hj : j = k
    · subst hj
      have hnew : ((w.objects j).map Object.name ++ [o.name]).Nodup :=
        List.nodup_append.mpr ⟨w.distinct j, List.nodup_singleton _, by
          intro a ha b hb hab
          rw [List.mem_singleton.mp hb] at hab
          exact h (hab ▸ ha)⟩
      simpa using hnew
    · simpa [hj] using w.distinct j

def Store.remove (w : Store K B) (k : K) (name : String) : Store K B where
  objects := Function.update w.objects k ((w.objects k).filter (·.name != name))
  distinct j := by
    by_cases hj : j = k
    · subst hj
      have hsub := (List.filter_sublist (p := fun o => o.name != name) (l := w.objects j))
      simpa using (hsub.map Object.name).nodup (w.distinct j)
    · simpa [hj] using w.distinct j

@[simp] theorem objects_insert (h : o.name ∉ w.names k) :
    (w.insert k o h).objects k = w.objects k ++ [o] := Function.update_self ..

theorem objects_insert_of_ne (h : o.name ∉ w.names k) (hk : k' ≠ k) :
    (w.insert k o h).objects k' = w.objects k' := Function.update_of_ne hk ..

@[simp] theorem objects_remove (name : String) :
    (w.remove k name).objects k = (w.objects k).filter (·.name != name) :=
  Function.update_self ..

theorem objects_remove_of_ne (name : String) (hk : k' ≠ k) :
    (w.remove k name).objects k' = w.objects k' := Function.update_of_ne hk ..

theorem objects_remove_sublist (name : String) :
    ((w.remove k name).objects k').Sublist (w.objects k') := by
  by_cases hk : k' = k
  · subst hk
    rw [objects_remove]
    exact List.filter_sublist
  · rw [objects_remove_of_ne name hk]

inductive Op (K B : Type) where
  | list (k : K) (s : Selector)
  | create (k : K) (m : Manifest B)
  | delete (k : K) (name : String)

abbrev Reply : Op K B → Type
  | .list _ _ => List (Object B)
  | .create _ _ => Object B
  | .delete _ _ => Unit

abbrev api (K B : Type) : Signature := ⟨Op K B, fun o => Except ApiError (Reply o)⟩

abbrev list (k : K) (s : Selector) : Prog (api K B) (Except ApiError (List (Object B))) :=
  Prog.perform (S := api K B) (.list k s)

abbrev create (k : K) (m : Manifest B) : Prog (api K B) (Except ApiError (Object B)) :=
  Prog.perform (S := api K B) (.create k m)

abbrev delete (k : K) (name : String) : Prog (api K B) (Except ApiError Unit) :=
  Prog.perform (S := api K B) (.delete k name)

structure Inserts (srv : Server) (k : K) (m : Manifest B) (w : Store K B) (o : Object B)
    (v : Store K B) : Prop where
  valid : ∀ l ∈ m.labels, srv.valid l = true
  granted : m.name.Grants o.name
  labels : o.labels = m.labels
  body : o.body = m.body
  fresh : o.name ∉ w.names k
  stored : v = w.insert k o fresh

def Succeeds (srv : Server) : (o : Op K B) → Store K B → Reply o → Store K B → Prop
  | .list k s, w, items, v => v = w ∧ (srv.reads s).isSome ∧ items.Perm (matching srv w k s)
  | .create k m, w, o, v => Inserts srv k m w o v
  | .delete k name, w, _, v => name ∈ w.names k ∧ (v = w ∨ v = w.remove k name)

def Fails (srv : Server) (o : Op K B) (w v : Store K B) : Prop :=
  v = w ∨ ∃ r, Succeeds srv o w r v

def Served (srv : Server) : Action (api K B) (Store K B)
  | o, w, .ok r, v => Succeeds srv o w r v
  | o, w, .error _, v => Fails srv o w v

def Reliable (srv : Server) : Action (api K B) (Store K B)
  | o, w, .ok r, v => Succeeds srv o w r v
  | _, _, .error _, _ => False

variable {op : Op K B} {x : (api K B).Ans op}

theorem served_cases (h : Served srv op w x v) :
    v = w ∨ ∃ r, Succeeds srv op w r v := by
  cases x with
  | ok r => exact Or.inr ⟨r, h⟩
  | error e => exact h

theorem served_list {x : (api K B).Ans (.list k s)} (h : Served srv (.list k s) w x v) :
    v = w := by
  rcases served_cases h with hv | ⟨items, hv, _⟩
  · exact hv
  · exact hv

theorem served_list_nil (h : Served srv (.list k s) w (.ok []) v)
    (hs : ∀ r ∈ s, srv.valid r = true) : ∀ o ∈ w.objects k, s.holds o.labels ≠ true := by
  intro o ho hheld
  have hmem := (mem_matching hs).mpr ⟨ho, hheld⟩
  obtain ⟨_, _, hperm⟩ := h
  simpa using hperm.mem_iff.mpr hmem

theorem served_sublist (h : Served srv op w x v) (hop : ∀ m, op ≠ .create k m) :
    (v.objects k).Sublist (w.objects k) := by
  rcases served_cases h with hv | ⟨r, hr⟩
  · rw [hv]
  cases op with
  | list k' s => rw [hr.1]
  | create k' m =>
    have hk : k ≠ k' := by
      intro hk
      exact hop m (by rw [hk])
    rw [hr.stored, objects_insert_of_ne hr.fresh hk]
  | delete k' name =>
    rcases hr.2 with hv | hv
    · rw [hv]
    · rw [hv]
      exact objects_remove_sublist name

theorem served_create {x : (api K B).Ans (.create k m)} (h : Served srv (.create k m) w x v) :
    v = w ∨ ∃ o, Inserts srv k m w o v := served_cases h

variable {name : String}

section Reliable

variable {α : Type} {Q : Option α → Store K B → Prop}

theorem ensures_list {f : (api K B).Ans (.list k s) → Prog (api K B) α}
    (h : ∀ items, (srv.reads s).isSome → items.Perm (matching srv w k s) →
      Ensures (Reliable srv) (f (.ok items)) w Q) :
    Ensures (Reliable srv) (list k s >>= f) w Q := by
  intro x v ha
  cases x with
  | error e => exact ha.elim
  | ok items =>
    obtain ⟨hv, hread, hperm⟩ := ha
    rw [hv]
    exact h items hread hperm

theorem ensures_create {f : (api K B).Ans (.create k m) → Prog (api K B) α}
    (h : ∀ o v, Inserts srv k m w o v → Ensures (Reliable srv) (f (.ok o)) v Q) :
    Ensures (Reliable srv) (create k m >>= f) w Q := by
  intro x v ha
  cases x with
  | error e => exact ha.elim
  | ok o => exact h o v ha

theorem ensures_delete {name : String} {f : (api K B).Ans (.delete k name) → Prog (api K B) α}
    (h : ∀ v, v = w ∨ v = w.remove k name → Ensures (Reliable srv) (f (.ok ())) v Q) :
    Ensures (Reliable srv) (delete k name >>= f) w Q := by
  intro x v ha
  cases x with
  | error e => exact ha.elim
  | ok _ => exact h v ha.2

theorem allows_list {f : (api K B).Ans (.list k s) → Prog (api K B) α}
    (hread : (srv.reads s).isSome)
    (h : Allows (Reliable srv) (f (.ok (matching srv w k s))) w Q) :
    Allows (Reliable srv) (list k s >>= f) w Q :=
  ⟨.ok (matching srv w k s), w, ⟨rfl, hread, .refl _⟩, h⟩

theorem allows_delete {name : String} {f : (api K B).Ans (.delete k name) → Prog (api K B) α}
    (hname : name ∈ w.names k) (hv : v = w ∨ v = w.remove k name)
    (h : Allows (Reliable srv) (f (.ok ())) v Q) :
    Allows (Reliable srv) (delete k name >>= f) w Q :=
  ⟨.ok (), v, ⟨hname, hv⟩, h⟩

theorem matching_remove (name : String) :
    matching srv (w.remove k name) k s = (matching srv w k s).filter (·.name != name) := by
  rw [matching, matching]
  split
  · rfl
  · rw [objects_remove, List.filter_comm]

theorem matching_remove_eq_nil (h : matching srv w k s = [o]) :
    matching srv (w.remove k o.name) k s = [] := by
  rw [matching_remove, h]
  simp

theorem matching_remove_ne_nil (ho : o ∈ matching srv w k s)
    (h : (matching srv w k s).length ≠ 1) (name : String) :
    matching srv (w.remove k name) k s ≠ [] := by
  rw [matching_remove]
  intro hnil
  have hall : ∀ n ∈ (matching srv w k s).map Object.name, n = name := by
    intro n hn
    obtain ⟨o', ho', rfl⟩ := List.mem_map.mp hn
    simpa using List.filter_eq_nil_iff.mp hnil o' ho'
  have hle : ((matching srv w k s).map Object.name).Nodup := matching_distinct
  rw [List.eq_replicate_of_mem hall, List.nodup_replicate, List.length_map] at hle
  have hpos := List.length_pos_of_mem ho
  omega

theorem matching_insert (h : Inserts srv k m w o v) (hs : ∀ r ∈ s, r ∈ m.labels)
    (hheld : s.holds m.labels = true) : o ∈ matching srv v k s := by
  apply (mem_matching fun r hr => h.valid r (hs r hr)).mpr
  rw [h.stored, h.labels]
  exact ⟨by simp, hheld⟩

end Reliable

/-! ## Calls that end with a context

The server carries out the calls whose context is alive when they arrive; the others fail without
effect. -/

section Contexts

/-- What the server may turn down: labels that are not valid, what its own rules do not admit,
and a name that is taken. -/
def Refuses (srv : Server) (admits : K → Manifest B → Bool) (k : K) (m : Manifest B)
    (w : Store K B) : Prop :=
  (∃ l ∈ m.labels, srv.valid l = false) ∨ admits k m = false ∨
    ∃ name ∈ w.names k, m.name.Grants name

def Executes (srv : Server) (admits : K → Manifest B → Bool) : Action (api K B) (Store K B)
  | .list k s, w, .ok items, v => Succeeds srv (.list k s) w items v
  | .list _ s, w, .error _, v => v = w ∧ srv.reads s = none
  | .create k m, w, .ok o, v => admits k m = true ∧ Inserts srv k m w o v
  | .create k m, w, .error _, v => v = w ∧ Refuses srv admits k m w
  | .delete k name, w, .ok _, v => v = w.remove k name ∧ name ∈ w.names k
  | .delete k name, w, .error _, v => v = w ∧ name ∉ w.names k

section

variable {admits : K → Manifest B → Bool} {α : Type} {Q : Option α → Store K B → Prop}

theorem ensures_list_executes {f : (api K B).Ans (.list k s) → Prog (api K B) α}
    (hfail : ∀ e, Ensures (Executes srv admits) (f (.error e)) w Q)
    (hok : ∀ items, (srv.reads s).isSome → items.Perm (matching srv w k s) →
      Ensures (Executes srv admits) (f (.ok items)) w Q) :
    Ensures (Executes srv admits) (list k s >>= f) w Q := by
  intro x v ha
  cases x with
  | error e =>
    rw [ha.1]
    exact hfail e
  | ok items =>
    obtain ⟨rfl, hread, hperm⟩ := ha
    exact hok items hread hperm

theorem ensures_create_executes {f : (api K B).Ans (.create k m) → Prog (api K B) α}
    (hfail : ∀ e, Ensures (Executes srv admits) (f (.error e)) w Q)
    (hok : ∀ o v, Inserts srv k m w o v → Ensures (Executes srv admits) (f (.ok o)) v Q) :
    Ensures (Executes srv admits) (create k m >>= f) w Q := by
  intro x v ha
  cases x with
  | error e =>
    rw [ha.1]
    exact hfail e
  | ok o => exact hok o v ha.2

theorem ensures_delete_executes {name : String}
    {f : (api K B).Ans (.delete k name) → Prog (api K B) α} (hname : name ∈ w.names k)
    (hok : Ensures (Executes srv admits) (f (.ok ())) (w.remove k name) Q) :
    Ensures (Executes srv admits) (delete k name >>= f) w Q := by
  intro x v ha
  cases x with
  | error e => exact absurd hname ha.2
  | ok _ =>
    rw [ha.1]
    exact hok

end

structure Timed (K B : Type) where
  store : Store K B
  calls : ℕ

/-- The context ends after `ends` calls, for the calls that are `bound` to it. -/
def Limited (srv : Server) (admits : K → Manifest B → Bool) (bound : Op K B → Bool) (ends : ℕ) :
    Action (api K B) (Timed K B) := fun op w x v =>
  v.calls = w.calls + 1 ∧
    if bound op = true ∧ ends ≤ w.calls then v.store = w.store ∧ ∃ e, x = .error e
    else Executes srv admits op w.store x v.store

variable {admits : K → Manifest B → Bool} {bound : Op K B → Bool} {ends : ℕ} {t u : Timed K B}
  {α : Type} {Q : Option α → Timed K B → Prop}

theorem ensures_list_limited {f : (api K B).Ans (.list k s) → Prog (api K B) α}
    (hfail : ∀ e, Ensures (Limited srv admits bound ends) (f (.error e)) ⟨t.store, t.calls + 1⟩ Q)
    (hok : ∀ items, (bound (.list k s) = true → t.calls < ends) → (srv.reads s).isSome →
      items.Perm (matching srv t.store k s) →
      Ensures (Limited srv admits bound ends) (f (.ok items)) ⟨t.store, t.calls + 1⟩ Q) :
    Ensures (Limited srv admits bound ends) (list k s >>= f) t Q := by
  rintro x ⟨store, calls⟩ ⟨hcalls, ha⟩
  dsimp only at hcalls ha
  subst hcalls
  split at ha
  · obtain ⟨rfl, e, rfl⟩ := ha
    exact hfail e
  · rename_i hlive
    cases x with
    | error e =>
      obtain ⟨rfl, _⟩ := ha
      exact hfail e
    | ok items =>
      obtain ⟨rfl, hread, hperm⟩ := ha
      exact hok items (fun hb => Nat.lt_of_not_le fun hle => hlive ⟨hb, hle⟩) hread hperm

theorem ensures_create_limited {f : (api K B).Ans (.create k m) → Prog (api K B) α}
    (hfail : ∀ e, (bound (.create k m) = true ∧ ends ≤ t.calls ∨ Refuses srv admits k m t.store) →
      Ensures (Limited srv admits bound ends) (f (.error e)) ⟨t.store, t.calls + 1⟩ Q)
    (hok : ∀ o v, (bound (.create k m) = true → t.calls < ends) → admits k m = true →
      Inserts srv k m t.store o v →
      Ensures (Limited srv admits bound ends) (f (.ok o)) ⟨v, t.calls + 1⟩ Q) :
    Ensures (Limited srv admits bound ends) (create k m >>= f) t Q := by
  rintro x ⟨store, calls⟩ ⟨hcalls, ha⟩
  dsimp only at hcalls ha
  subst hcalls
  split at ha
  · rename_i hdead
    obtain ⟨rfl, e, rfl⟩ := ha
    exact hfail e (Or.inl hdead)
  · rename_i hlive
    cases x with
    | error e =>
      obtain ⟨rfl, hrefused⟩ := ha
      exact hfail e (Or.inr hrefused)
    | ok o =>
      exact hok o store (fun hb => Nat.lt_of_not_le fun hle => hlive ⟨hb, hle⟩) ha.1 ha.2

theorem ensures_delete_limited {name : String}
    {f : (api K B).Ans (.delete k name) → Prog (api K B) α}
    (hfail : ∀ e, (bound (.delete k name) = true ∧ ends ≤ t.calls ∨ name ∉ t.store.names k) →
      Ensures (Limited srv admits bound ends) (f (.error e)) ⟨t.store, t.calls + 1⟩ Q)
    (hok : Ensures (Limited srv admits bound ends) (f (.ok ()))
      ⟨t.store.remove k name, t.calls + 1⟩ Q) :
    Ensures (Limited srv admits bound ends) (delete k name >>= f) t Q := by
  rintro x ⟨store, calls⟩ ⟨hcalls, ha⟩
  dsimp only at hcalls ha
  subst hcalls
  split at ha
  · rename_i hdead
    obtain ⟨rfl, e, rfl⟩ := ha
    exact hfail e (Or.inl hdead)
  · cases x with
    | error e =>
      obtain ⟨rfl, habsent⟩ := ha
      exact hfail e (Or.inr habsent)
    | ok _ =>
      obtain ⟨rfl, _⟩ := ha
      exact hok

theorem limited_live (hlive : t.calls < ends) (h : Executes srv admits op t.store x v) :
    Limited srv admits bound ends op t x ⟨v, t.calls + 1⟩ := by
  refine ⟨rfl, ?_⟩
  rw [if_neg fun hdead => absurd hdead.2 (Nat.not_le.mpr hlive)]
  exact h

theorem limited_dead (e : ApiError) (hbound : bound op = true) (hdead : ends ≤ t.calls) :
    Limited srv admits bound ends op t (.error e) ⟨t.store, t.calls + 1⟩ := by
  refine ⟨rfl, ?_⟩
  rw [if_pos ⟨hbound, hdead⟩]
  exact ⟨rfl, e, rfl⟩

theorem objects_remove_inserted (h : Inserts srv k m w o v) (k' : K) :
    (v.remove k o.name).objects k' = w.objects k' := by
  rw [h.stored]
  by_cases hk : k' = k
  · subst hk
    have hkeep : (w.objects k').filter (·.name != o.name) = w.objects k' := by
      refine List.filter_eq_self.mpr ?_
      intro o' ho'
      have hne : o'.name ≠ o.name := fun heq => h.fresh (heq ▸ List.mem_map_of_mem ho')
      simpa using hne
    rw [objects_remove, objects_insert, List.filter_append, hkeep]
    simp
  · rw [objects_remove_of_ne o.name hk, objects_insert_of_ne h.fresh hk]

theorem Inserts.not_refuses {labels : Labels} {body : B}
    (h : Inserts srv k ⟨.fixed name, labels, body⟩ w o v)
    (ha : admits k ⟨.fixed name, labels, body⟩ = true) :
    ¬ Refuses srv admits k ⟨.fixed name, labels, body⟩ w := by
  rintro (⟨l, hl, hinvalid⟩ | hnot | ⟨taken, htaken, hgrants⟩)
  · rw [h.valid l hl] at hinvalid
    cases hinvalid
  · rw [ha] at hnot
    cases hnot
  · have hname : o.name = name := h.granted
    have htakenName : taken = name := hgrants
    exact h.fresh (by rw [hname, ← htakenName]; exact htaken)

theorem inserts_of_not_refuses {labels : Labels} {body : B}
    (h : ¬ Refuses srv admits k ⟨.fixed name, labels, body⟩ w) :
    admits k ⟨.fixed name, labels, body⟩ = true ∧
      ∃ v, Inserts srv k ⟨.fixed name, labels, body⟩ w ⟨name, labels, body⟩ v := by
  rw [Refuses, not_or, not_or] at h
  obtain ⟨hvalid, hadmits, hfree⟩ := h
  have hfresh : name ∉ w.names k := fun htaken => hfree ⟨name, htaken, rfl⟩
  refine ⟨by simpa using hadmits, w.insert k ⟨name, labels, body⟩ hfresh, ?_, rfl, rfl, rfl, hfresh,
    rfl⟩
  intro l hl
  by_contra hnot
  exact hvalid ⟨l, hl, by simpa using hnot⟩

theorem Inserts.mem (h : Inserts srv k m w o v) : o ∈ v.objects k := by
  rw [h.stored, objects_insert]
  exact List.mem_append_right _ (List.mem_singleton_self o)

end Contexts

/-! ## Replies that get lost

The objects, and the kinds of those that were stored by a create that failed. -/

section LostReplies

structure Noted (K B : Type) where
  store : Store K B
  lost : List K

def Lossy (srv : Server) : Action (api K B) (Noted K B)
  | .list k s, w, .ok items, v => v = w ∧ (srv.reads s).isSome ∧
      items.Perm (matching srv w.store k s)
  | .list _ _, w, .error _, v => v = w
  | .create k m, w, .ok o, v => v.lost = w.lost ∧ Inserts srv k m w.store o v.store
  | .create k m, w, .error e, v =>
    (v = w ∧ (e.reason = .alreadyExists → ∃ name ∈ w.store.names k, m.name.Grants name)) ∨
      (e.reason ≠ .alreadyExists ∧ v.lost = w.lost ++ [k] ∧ ∃ o, Inserts srv k m w.store o v.store)
  | .delete k name, w, .ok _, v => v = ⟨w.store.remove k name, w.lost⟩ ∧ name ∈ w.store.names k
  | .delete k name, w, .error _, v => v = w ∧ name ∉ w.store.names k

variable {t u : Noted K B} {α : Type} {Q : Option α → Noted K B → Prop}

theorem ensures_list_lossy {f : (api K B).Ans (.list k s) → Prog (api K B) α}
    (hfail : ∀ e, Ensures (Lossy srv) (f (.error e)) t Q)
    (hok : ∀ items, (srv.reads s).isSome → items.Perm (matching srv t.store k s) →
      Ensures (Lossy srv) (f (.ok items)) t Q) :
    Ensures (Lossy srv) (list k s >>= f) t Q := by
  intro x v ha
  cases x with
  | error e =>
    rw [show v = t from ha]
    exact hfail e
  | ok items =>
    obtain ⟨rfl, hread, hperm⟩ := ha
    exact hok items hread hperm

theorem ensures_create_lossy {f : (api K B).Ans (.create k m) → Prog (api K B) α}
    (hrefused : ∀ e, (e.reason = .alreadyExists → ∃ name ∈ t.store.names k, m.name.Grants name) →
      Ensures (Lossy srv) (f (.error e)) t Q)
    (hlost : ∀ e o v, e.reason ≠ .alreadyExists → Inserts srv k m t.store o v →
      Ensures (Lossy srv) (f (.error e)) ⟨v, t.lost ++ [k]⟩ Q)
    (hok : ∀ o v, Inserts srv k m t.store o v → Ensures (Lossy srv) (f (.ok o)) ⟨v, t.lost⟩ Q) :
    Ensures (Lossy srv) (create k m >>= f) t Q := by
  rintro x ⟨v, lost⟩ ha
  cases x with
  | error e =>
    rcases ha with ⟨rfl, htaken⟩ | ⟨hreason, rfl, o, hinserts⟩
    · exact hrefused e htaken
    · exact hlost e o v hreason hinserts
  | ok o =>
    obtain ⟨rfl, hinserts⟩ := ha
    exact hok o v hinserts

theorem ensures_delete_lossy {name : String} {f : (api K B).Ans (.delete k name) → Prog (api K B) α}
    (hname : name ∈ t.store.names k)
    (hok : Ensures (Lossy srv) (f (.ok ())) ⟨t.store.remove k name, t.lost⟩ Q) :
    Ensures (Lossy srv) (delete k name >>= f) t Q := by
  intro x v ha
  cases x with
  | error e => exact absurd hname ha.2
  | ok _ =>
    rw [ha.1]
    exact hok

theorem lossy_lost_subset (h : Lossy srv op t x u) :
    t.lost ⊆ u.lost := by
  cases op with
  | list k s =>
    cases x with
    | error e => rw [show u = t from h]; exact List.Subset.refl _
    | ok items => rw [h.1]; exact List.Subset.refl _
  | create k m =>
    cases x with
    | error e =>
      rcases h with ⟨rfl, _⟩ | ⟨_, hlost, _⟩
      · exact List.Subset.refl _
      · rw [hlost]
        exact List.subset_append_left _ _
    | ok o => rw [h.1]; exact List.Subset.refl _
  | delete k name =>
    cases x with
    | error e => rw [h.1]; exact List.Subset.refl _
    | ok _ => rw [h.1]; exact List.Subset.refl _

theorem lost_subset {p : Prog (api K B) α} {r : Option α} (h : Performs (Lossy srv) p t r u) :
    t.lost ⊆ u.lost := by
  induction h with
  | ret a w => exact List.Subset.refl _
  | raise w => exact List.Subset.refl _
  | call ha _ ih => exact List.Subset.trans (lossy_lost_subset ha) ih

end LostReplies

def Single (key : String) (k : K) (w : Store K B) : Prop :=
  ∀ value, ((w.objects k).filter fun o => o.labels.lookup key == some value).length ≤ 1

omit [DecidableEq K] in
theorem Single.of_sublist (h : Single key k w) (hsub : (v.objects k).Sublist (w.objects k)) :
    Single key k v := 
  fun value => Nat.le_trans (hsub.filter _).length_le (h value)

theorem Single.insert (h : Single key k w) (hfresh : o.name ∉ w.names k)
    (hnew : ∀ value, o.labels.lookup key = some value →
      ∀ o' ∈ w.objects k, o'.labels.lookup key ≠ some value) :
    Single key k (w.insert k o hfresh) := by
  intro value
  rw [objects_insert, List.filter_append, List.length_append]
  by_cases hv : o.labels.lookup key = some value
  · have hnone : ((w.objects k).filter fun o => o.labels.lookup key == some value) = [] := by
      apply List.filter_eq_nil_iff.mpr
      intro o' ho' heq
      exact hnew value hv o' ho' (by simpa using heq)
    simp [hnone, hv]
  · simpa [hv] using h value

end ObjectStore
