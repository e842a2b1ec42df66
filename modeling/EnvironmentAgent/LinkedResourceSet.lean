import Mathlib.Data.List.AList
import EnvironmentAgent.RecencyLists
import EnvironmentAgent.RoutingResourceSet

/-! # The resource set with its pointers

`resourceset.go` as it is written: a map from ids to list elements beside the list that holds them,
kept in step by hand. -/
namespace LinkedResourceSet

open RecencyLists

structure ResourceSet where
  maxSize : ℤ
  items : AList fun _ : String => Handle
  order : ElementList String

namespace ResourceSet

def new (maxSize : ℤ) : ResourceSet :=
  ⟨if maxSize ≤ 0 then 1 else maxSize, ∅, ElementList.empty⟩

def size (d : ResourceSet) : ℕ := d.items.keys.length

/-- The eviction of `insert`; `none` is the panic on a nil element. -/
def evict (d : ResourceSet) : Option ResourceSet :=
  if d.maxSize ≤ d.size then
    match d.order.back with
    | none => none
    | some (back, value) => some { d with
        order := d.order.remove back
        items := d.items.erase value }
  else some d

def pushFront (d : ResourceSet) (resourceID : String) : ResourceSet :=
  let pushed := d.order.pushFront resourceID
  { d with order := pushed.2, items := d.items.insert resourceID pushed.1 }

def insertId (d : ResourceSet) (resourceID : String) : Option (Bool × ResourceSet) :=
  match d.items.lookup resourceID with
  | some elem => some (false, { d with order := d.order.moveToFront elem })
  | none => d.evict.map fun d => (true, d.pushFront resourceID)

def add (d : ResourceSet) (resourceID : String) : Option ResourceSet :=
  (d.insertId resourceID).map Prod.snd

def addIfAbsent (d : ResourceSet) (resourceID : String) : Option (Bool × ResourceSet) :=
  d.insertId resourceID

def contains (d : ResourceSet) (resourceID : String) : Bool × ResourceSet :=
  match d.items.lookup resourceID with
  | none => (false, d)
  | some elem => (true, { d with order := d.order.moveToFront elem })

def consume (d : ResourceSet) (resourceID : String) : Bool × ResourceSet :=
  match d.items.lookup resourceID with
  | none => (false, d)
  | some elem => (true, { d with
      order := d.order.remove elem
      items := d.items.erase resourceID })

def remove (d : ResourceSet) (resourceID : String) : ResourceSet :=
  match d.items.lookup resourceID with
  | none => d
  | some elem => { d with
      order := d.order.remove elem
      items := d.items.erase resourceID }

def len (d : ResourceSet) : ℕ := d.size

end ResourceSet

inductive Call where
  | add (resourceID : String)
  | addIfAbsent (resourceID : String)
  | contains (resourceID : String)
  | consume (resourceID : String)
  | remove (resourceID : String)
  | len
  deriving DecidableEq, Repr

inductive Answer where
  | done
  | bool (b : Bool)
  | count (n : ℕ)
  deriving DecidableEq, Repr

def ResourceSet.perform (d : ResourceSet) : Call → Option (Answer × ResourceSet)
  | .add r => (d.add r).map fun d => (.done, d)
  | .addIfAbsent r => (d.addIfAbsent r).map fun p => (.bool p.1, p.2)
  | .contains r => some (.bool (d.contains r).1, (d.contains r).2)
  | .consume r => some (.bool (d.consume r).1, (d.consume r).2)
  | .remove r => some (.done, d.remove r)
  | .len => some (.count d.len, d)

def ResourceSet.performAll (d : ResourceSet) : List Call → Option (List Answer × ResourceSet)
  | [] => some ([], d)
  | c :: cs => (d.perform c).bind fun (a, d) =>
      (d.performAll cs).map fun (as, d) => (a :: as, d)

/-- The bounded recency list that the set is for, with the answers to the same calls. -/
def respond (cap : ℕ) (l : List String) : Call → Answer × List String
  | .add r => (.done, place cap l r)
  | .addIfAbsent r => (.bool (r ∉ l), place cap l r)
  | .contains r => (.bool (r ∈ l), touch l r)
  | .consume r => (.bool (r ∈ l), l.erase r)
  | .remove r => (.done, l.erase r)
  | .len => (.count l.length, l)

def respondAll (cap : ℕ) (l : List String) : List Call → List Answer × List String
  | [] => ([], l)
  | c :: cs =>
    let rest := respondAll cap (respond cap l c).2 cs
    ((respond cap l c).1 :: rest.1, rest.2)

/-- The list holds `l` and every entry of the map points to the element that holds its key. -/
structure Tracks (cap : ℕ) (d : ResourceSet) (l : List String) : Prop where
  maxSize : d.maxSize = cap
  values : d.order.values = l
  points : ∀ r h, d.items.lookup r = some h ↔ d.order.Holds h r
  bounded : Bounded cap l

section

variable {cap : ℕ} {d : ResourceSet} {l : List String}

variable {r : String}

theorem Tracks.lookup_isSome (ht : Tracks cap d l) :
    (∃ h, d.items.lookup r = some h) ↔ r ∈ l := by
  rw [← ht.values, ElementList.mem_values]
  exact exists_congr (ht.points r)

theorem Tracks.lookup_none (ht : Tracks cap d l) (h : d.items.lookup r = none) :
    r ∉ l := by
  intro hmem
  obtain ⟨e, he⟩ := ht.lookup_isSome.mpr hmem
  rw [h] at he
  cases he

theorem Tracks.keys_perm (ht : Tracks cap d l) : d.items.keys.Perm l := by
  refine (List.perm_ext_iff_of_nodup d.items.keys_nodup ht.bounded.nodup).mpr ?_
  intro r
  rw [← ht.lookup_isSome, ← AList.mem_keys, ← AList.lookup_isSome, Option.isSome_iff_exists]

theorem Tracks.size_eq (ht : Tracks cap d l) : d.size = l.length := ht.keys_perm.length_eq

theorem Tracks.moveToFront (ht : Tracks cap d l) {h : Handle} (hlookup : d.items.lookup r = some h)
    :
    Tracks cap { d with order := d.order.moveToFront h } (r :: l.erase r) := by
  have hholds := (ht.points r h).mp hlookup
  have hmem := ht.lookup_isSome.mp ⟨h, hlookup⟩
  refine ⟨ht.maxSize, ?_, ?_, ht.bounded.refresh hmem⟩
  · have hnodup : d.order.values.Nodup := ht.values ▸ ht.bounded.nodup
    rw [← ht.values]
    exact ElementList.values_moveToFront hnodup hholds
  · intro r' h'
    exact (ht.points r' h').trans ElementList.holds_moveToFront.symm

theorem Tracks.drop (ht : Tracks cap d l) {h : Handle} (hholds : d.order.Holds h r) :
    Tracks cap { d with order := d.order.remove h, items := d.items.erase r } (l.erase r) := by
  have hnodup : d.order.values.Nodup := ht.values ▸ ht.bounded.nodup
  refine ⟨ht.maxSize, ?_, ?_, ht.bounded.erase r⟩
  · rw [← ht.values]
    exact ElementList.values_remove hnodup hholds
  · intro r' h'
    rw [ElementList.holds_remove]
    by_cases hr : r' = r
    · subst hr
      -- the map had one entry for the id, so no other element holds it
      have hsame : d.order.Holds h' r' → h' = h := fun hother =>
        Option.some.inj (((ht.points r' h').mpr hother).symm.trans ((ht.points r' h).mpr hholds))
      simp only [AList.lookup_erase, reduceCtorEq, false_iff, not_and]
      exact fun hne hother => hne (hsame hother)
    · have hne : d.order.Holds h' r' → h' ≠ h := by
        rintro hother rfl
        exact hr (hother.value_unique hholds)
      rw [AList.lookup_erase_ne hr, ht.points]
      exact ⟨fun hother => ⟨hne hother, hother⟩, And.right⟩

theorem Tracks.pushFront (ht : Tracks cap d l) (hr : r ∉ l) (hroom : l.length < cap) :
    Tracks cap (d.pushFront r) (r :: l) := by
  refine ⟨ht.maxSize, ?_, ?_, List.nodup_cons.mpr ⟨hr, ht.bounded.nodup⟩, hroom⟩
  · exact (ElementList.values_pushFront d.order r).trans (congrArg (r :: ·) ht.values)
  · intro r' h'
    dsimp only [ResourceSet.pushFront]
    rw [ElementList.holds_pushFront]
    by_cases hr' : r' = r
    · subst hr'
      have hnot : ¬ d.order.Holds h' r' := fun hother => hr (ht.values ▸ hother.mem_values)
      simp [AList.lookup_insert, hnot, eq_comm]
    · rw [AList.lookup_insert_ne hr', ht.points]
      simp [hr']

theorem Tracks.evict (ht : Tracks cap d l) (hcap : 0 < cap) :
    ∃ d', d.evict = some d' ∧ Tracks cap d' (if cap ≤ l.length then l.dropLast else l) := by
  have hfull : d.maxSize ≤ d.size ↔ cap ≤ l.length := by
    rw [ht.maxSize, ht.size_eq, Int.ofNat_le]
  unfold ResourceSet.evict
  by_cases hle : cap ≤ l.length
  · have hne : d.order.values ≠ [] := by
      rw [ht.values]
      rintro rfl
      exact absurd hcap (Nat.not_lt.mpr hle)
    obtain ⟨back, value, hback⟩ := ElementList.back_isSome hne
    obtain ⟨hholds, hlast⟩ := ElementList.back_eq_some hback
    rw [if_pos (hfull.mpr hle), if_pos hle, hback]
    refine ⟨_, rfl, ?_⟩
    rw [ht.values] at hlast
    rw [← erase_getLast ht.bounded.nodup hlast]
    exact ht.drop hholds
  · rw [if_neg (mt hfull.mp hle), if_neg hle]
    exact ⟨d, rfl, ht⟩

theorem Tracks.insertId (ht : Tracks cap d l) (hcap : 0 < cap) (r : String) :
    ∃ d', d.insertId r = some (decide (r ∉ l), d') ∧ Tracks cap d' (place cap l r) := by
  unfold ResourceSet.insertId
  cases hlookup : d.items.lookup r with
  | some h =>
    have hmem := ht.lookup_isSome.mp ⟨h, hlookup⟩
    refine ⟨{ d with order := d.order.moveToFront h }, by simp [hmem], ?_⟩
    rw [place, if_pos hmem]
    exact ht.moveToFront hlookup
  | none =>
    have hr := ht.lookup_none hlookup
    obtain ⟨d', hevict, ht'⟩ := ht.evict hcap
    refine ⟨d'.pushFront r, by simp [hevict, hr], ?_⟩
    rw [place, if_neg hr]
    split
    · rename_i hfull
      rw [if_pos hfull] at ht'
      have hlen := ht.bounded.length_le
      refine ht'.pushFront (fun hm => hr (List.dropLast_subset l hm)) ?_
      rw [List.length_dropLast]
      omega
    · rename_i hfree
      rw [if_neg hfree] at ht'
      exact ht'.pushFront hr (Nat.not_le.mp hfree)

theorem Tracks.contains (ht : Tracks cap d l) (r : String) :
    (d.contains r).1 = decide (r ∈ l) ∧ Tracks cap (d.contains r).2 (touch l r) := by
  unfold ResourceSet.contains
  cases hlookup : d.items.lookup r with
  | some h =>
    have hmem := ht.lookup_isSome.mp ⟨h, hlookup⟩
    rw [touch, if_pos hmem]
    exact ⟨by simp [hmem], ht.moveToFront hlookup⟩
  | none =>
    have hr := ht.lookup_none hlookup
    rw [touch, if_neg hr]
    exact ⟨by simp [hr], ht⟩

theorem Tracks.consume (ht : Tracks cap d l) (r : String) :
    (d.consume r).1 = decide (r ∈ l) ∧ Tracks cap (d.consume r).2 (l.erase r) := by
  unfold ResourceSet.consume
  cases hlookup : d.items.lookup r with
  | some h =>
    have hmem := ht.lookup_isSome.mp ⟨h, hlookup⟩
    exact ⟨by simp [hmem], ht.drop ((ht.points r h).mp hlookup)⟩
  | none =>
    have hr := ht.lookup_none hlookup
    rw [List.erase_of_not_mem hr]
    exact ⟨by simp [hr], ht⟩

theorem ResourceSet.remove_eq (d : ResourceSet) (r : String) : d.remove r = (d.consume r).2 := by
  unfold ResourceSet.remove ResourceSet.consume
  cases d.items.lookup r <;> rfl

theorem Tracks.perform (ht : Tracks cap d l) (hcap : 0 < cap) (c : Call) :
    ∃ d', d.perform c = some ((respond cap l c).1, d') ∧ Tracks cap d' (respond cap l c).2 := by
  cases c with
  | add r =>
    obtain ⟨d', hinsert, ht'⟩ := ht.insertId hcap r
    exact ⟨d', by simp [ResourceSet.perform, ResourceSet.add, hinsert, respond], ht'⟩
  | addIfAbsent r =>
    obtain ⟨d', hinsert, ht'⟩ := ht.insertId hcap r
    exact ⟨d', by simp [ResourceSet.perform, ResourceSet.addIfAbsent, hinsert, respond], ht'⟩
  | contains r =>
    obtain ⟨hanswer, ht'⟩ := ht.contains r
    exact ⟨_, by rw [ResourceSet.perform, hanswer]; rfl, ht'⟩
  | consume r =>
    obtain ⟨hanswer, ht'⟩ := ht.consume r
    exact ⟨_, by rw [ResourceSet.perform, hanswer]; rfl, ht'⟩
  | remove r =>
    obtain ⟨_, ht'⟩ := ht.consume r
    exact ⟨_, by rw [ResourceSet.perform, ResourceSet.remove_eq]; rfl, ht'⟩
  | len => exact ⟨d, by rw [ResourceSet.perform, ResourceSet.len, ht.size_eq]; rfl, ht⟩

theorem Tracks.performAll (ht : Tracks cap d l) (hcap : 0 < cap) (cs : List Call) :
    ∃ d', d.performAll cs = some ((respondAll cap l cs).1, d') ∧
      Tracks cap d' (respondAll cap l cs).2 := by
  induction cs generalizing d l with
  | nil => exact ⟨d, rfl, ht⟩
  | cons c cs ih =>
    obtain ⟨d₁, hfirst, ht₁⟩ := ht.perform hcap c
    obtain ⟨d₂, hrest, ht₂⟩ := ih ht₁
    exact ⟨d₂, by simp [ResourceSet.performAll, hfirst, hrest, respondAll], ht₂⟩

end

/-! ## What keeps an id in the set -/

/-- The id that a call may move to the front. -/
def Call.named : Call → Option String
  | .add r | .addIfAbsent r | .contains r => some r
  | .consume _ | .remove _ | .len => none

section

variable {cap : ℕ} {d : ResourceSet} {l : List String} {r : String} {others : Finset String}

theorem respond_retains (hl : Bounded cap l) (hfew : others.card < cap) {c : Call}
    (hconsume : c ≠ .consume r) (hremove : c ≠ .remove r)
    (hnamed : ∀ x, c.named = some x → x = r ∨ x ∈ others) (h : Behind others r l) :
    Behind others r (respond cap l c).2 := by
  cases c with
  | add x => exact h.place hl hfew (hnamed x rfl)
  | addIfAbsent x => exact h.place hl hfew (hnamed x rfl)
  | contains x => exact h.touch (hnamed x rfl)
  | consume x => exact h.erase fun hx => hconsume (congrArg Call.consume hx)
  | remove x => exact h.erase fun hx => hremove (congrArg Call.remove hx)
  | len => exact h

theorem Tracks.retains (ht : Tracks cap d l) (hcap : 0 < cap) (hfew : others.card < cap)
    {cs : List Call} (hconsume : .consume r ∉ cs) (hremove : .remove r ∉ cs)
    (hnamed : ∀ c ∈ cs, ∀ x, c.named = some x → x = r ∨ x ∈ others) (h : Behind others r l) :
    Behind others r (respondAll cap l cs).2 := by
  induction cs generalizing d l with
  | nil => exact h
  | cons c cs ih =>
    rw [List.mem_cons, not_or] at hconsume hremove
    rw [List.forall_mem_cons] at hnamed
    obtain ⟨d', _, ht'⟩ := ht.perform hcap c
    exact ih ht' hconsume.2 hremove.2 hnamed.2
      (respond_retains ht.bounded hfew (Ne.symm hconsume.1) (Ne.symm hremove.1) hnamed.1 h)

theorem respondAll_append (cs ds : List Call) :
    (respondAll cap l (cs ++ ds)).2 = (respondAll cap (respondAll cap l cs).2 ds).2 := by
  induction cs generalizing l with
  | nil => rfl
  | cons c cs ih => exact ih

theorem behind_place (r : String) : Behind others r (place cap l r) := by
  unfold place
  split
  · exact Behind.front r _
  · split <;> exact Behind.front r _

end

/-! ## The sets of the routing model -/

section

open RoutingResourceSet

def answer (s : RoutingResourceSet.ResourceSet) :
    Call → Answer × RoutingResourceSet.ResourceSet
  | .add r => (.done, s.add r)
  | .addIfAbsent r => (.bool (s.addIfAbsent r).1, (s.addIfAbsent r).2)
  | .contains r => (.bool (s.contains r).1, (s.contains r).2)
  | .consume r => (.bool (s.consume r).1, (s.consume r).2)
  | .remove r => (.done, s.remove r)
  | .len => (.count s.len, s)

variable (s : RoutingResourceSet.ResourceSet) (r : String)

theorem order_evict :
    s.evict.order = if s.maxSize ≤ s.order.length then s.order.dropLast else s.order := by
  unfold RoutingResourceSet.ResourceSet.evict
  rw [s.card_items]
  split
  · cases hlast : s.order.getLast? with
    | none =>
      rw [List.getLast?_eq_none_iff] at hlast
      simp [hlast]
    | some back => exact erase_getLast s.nodup hlast
  · rfl

theorem order_insertId : (s.insertId r).2.order = place s.maxSize s.order r := by
  unfold RoutingResourceSet.ResourceSet.insertId place
  by_cases hr : r ∈ s
  · rw [dif_pos hr, if_pos (ResourceSet.mem_order.mpr hr)]
    rfl
  · rw [dif_neg hr, if_neg (mt ResourceSet.mem_order.mp hr)]
    have hpushed := congrArg (r :: ·) (order_evict s)
    refine hpushed.trans ?_
    split <;> rfl

theorem order_contains : (s.contains r).2.order = touch s.order r := by
  unfold RoutingResourceSet.ResourceSet.contains touch
  by_cases hr : r ∈ s
  · rw [dif_pos hr, if_pos (ResourceSet.mem_order.mpr hr)]
    rfl
  · rw [dif_neg hr, if_neg (mt ResourceSet.mem_order.mp hr)]

theorem order_consume : (s.consume r).2.order = s.order.erase r := by
  unfold RoutingResourceSet.ResourceSet.consume
  split
  · rfl
  · rename_i hr
    exact (List.erase_of_not_mem (mt ResourceSet.mem_order.mp hr)).symm

theorem order_remove : (s.remove r).order = s.order.erase r := by
  unfold RoutingResourceSet.ResourceSet.remove
  split
  · rfl
  · rename_i hr
    exact (List.erase_of_not_mem (mt ResourceSet.mem_order.mp hr)).symm

omit s r in
theorem answer_bool {b : Bool} {p : Prop} [Decidable p] (h : b = true ↔ p) :
    Answer.bool b = .bool (decide p) :=
  congrArg Answer.bool (Bool.eq_iff_iff.mpr (h.trans decide_eq_true_iff.symm))

theorem answer_eq (c : Call) :
    (answer s c).1 = (respond s.maxSize s.order c).1 ∧
      (answer s c).2.order = (respond s.maxSize s.order c).2 ∧
      (answer s c).2.maxSize = s.maxSize := by
  cases c with
  | add r => exact ⟨rfl, order_insertId s r, s.insertId_maxSize r⟩
  | addIfAbsent r =>
    have hfst := s.insertId_fst r
    rw [← ResourceSet.mem_order] at hfst
    exact ⟨answer_bool hfst, order_insertId s r, s.insertId_maxSize r⟩
  | contains r =>
    have hfst := s.contains_fst r
    rw [← ResourceSet.mem_order] at hfst
    exact ⟨answer_bool hfst, order_contains s r, s.contains_maxSize r⟩
  | consume r =>
    have hfst := s.consume_fst r
    rw [← ResourceSet.mem_order] at hfst
    exact ⟨answer_bool hfst, order_consume s r, s.consume_maxSize r⟩
  | remove r => exact ⟨rfl, order_remove s r, s.remove_maxSize r⟩
  | len => exact ⟨congrArg Answer.count s.card_items, rfl, rfl⟩

def answerAll (s : RoutingResourceSet.ResourceSet) :
    List Call → List Answer × RoutingResourceSet.ResourceSet
  | [] => ([], s)
  | c :: cs =>
    let rest := answerAll (answer s c).2 cs
    ((answer s c).1 :: rest.1, rest.2)

theorem answerAll_eq (cs : List Call) :
    (answerAll s cs).1 = (respondAll s.maxSize s.order cs).1 ∧
      (answerAll s cs).2.order = (respondAll s.maxSize s.order cs).2 := by
  induction cs generalizing s with
  | nil => exact ⟨rfl, rfl⟩
  | cons c cs ih =>
    obtain ⟨hanswer, horder, hsize⟩ := answer_eq s c
    obtain ⟨hanswers, hlast⟩ := ih (answer s c).2
    rw [horder, hsize] at hanswers hlast
    exact ⟨congrArg₂ List.cons hanswer hanswers, hlast⟩

end

theorem tracks_new (maxSize : ℤ) : Tracks (max 1 maxSize).toNat (ResourceSet.new maxSize) [] := by
  refine ⟨?_, rfl, ?_, Bounded.nil⟩
  · unfold ResourceSet.new
    split <;> dsimp only <;> omega
  · intro r h
    simp [ResourceSet.new]

/-- The set with its pointers answers every sequence of calls as the set of the routing model, and
has the same ids in the same order at its end. -/
theorem pointer_set_simulates (maxSize : ℤ) (cs : List Call) :
    ∃ d, (ResourceSet.new maxSize).performAll cs =
        some ((answerAll (RoutingResourceSet.ResourceSet.new maxSize) cs).1, d) ∧
      d.order.values = (answerAll (RoutingResourceSet.ResourceSet.new maxSize) cs).2.order := by
  have hcap : (max 1 maxSize).toNat = (RoutingResourceSet.ResourceSet.new maxSize).maxSize := by
    dsimp only [RoutingResourceSet.ResourceSet.new]
    split <;> omega
  have hsame := answerAll_eq (RoutingResourceSet.ResourceSet.new maxSize) cs
  rw [← hcap] at hsame
  obtain ⟨d, hrun, ht⟩ := (tracks_new maxSize).performAll (by omega) cs
  refine ⟨d, ?_, ht.values.trans hsame.2.symm⟩
  rw [hsame.1]
  exact hrun

/-- Every sequence of calls runs without a panic and answers as the bounded recency list does;
at its end the map's keys are the list's elements, and each entry points to the element that
holds its key. -/
theorem resource_set_refines (maxSize : ℤ) (cs : List Call) :
    ∃ d, (ResourceSet.new maxSize).performAll cs =
        some ((respondAll (max 1 maxSize).toNat [] cs).1, d) ∧
      d.order.values = (respondAll (max 1 maxSize).toNat [] cs).2 ∧
      (respondAll (max 1 maxSize).toNat [] cs).2.Nodup ∧
      ((respondAll (max 1 maxSize).toNat [] cs).2.length : ℤ) ≤ max 1 maxSize ∧
      d.items.keys.Perm d.order.values ∧
      ∀ r h, d.items.lookup r = some h ↔ d.order.Holds h r := by
  obtain ⟨d, hrun, ht⟩ := (tracks_new maxSize).performAll (by omega) cs
  refine ⟨d, hrun, ht.values, ht.bounded.nodup, ?_, ?_, ht.points⟩
  · have hlen := ht.bounded.length_le
    omega
  · rw [ht.values]
    exact ht.keys_perm

/-- An id that was added stays in the set, whatever happened before, until it is consumed or
removed or as many other ids as the set has room for are added or asked for. -/
theorem added_id_retained (maxSize : ℤ) (earlier later : List Call) (c : Call) (r : String)
    (hadd : c = .add r ∨ c = .addIfAbsent r)
    (hconsume : .consume r ∉ later) (hremove : .remove r ∉ later)
    (hfew : ((later.filterMap Call.named).toFinset.erase r).card < max 1 maxSize) :
    ∃ answers d, (ResourceSet.new maxSize).performAll (earlier ++ c :: later) =
      some (answers, d) ∧ (d.contains r).1 = true := by
  obtain ⟨d₀, _, ht₀⟩ := (tracks_new maxSize).performAll (by omega) earlier
  obtain ⟨d₁, _, ht₁⟩ := ht₀.perform (by omega) c
  obtain ⟨d, hrun, ht⟩ := (tracks_new maxSize).performAll (by omega) (earlier ++ c :: later)
  refine ⟨_, d, hrun, ?_⟩
  rw [(ht.contains r).1, decide_eq_true_iff, respondAll_append]
  refine (ht₁.retains (by omega) (Int.lt_toNat.mpr hfew) hconsume hremove ?_ ?_).mem
  · intro c hc x hx
    by_cases hxr : x = r
    · exact Or.inl hxr
    · have hx' := List.mem_filterMap.mpr ⟨c, hc, hx⟩
      exact Or.inr (Finset.mem_erase.mpr ⟨hxr, List.mem_toFinset.mpr hx'⟩)
  · rcases hadd with rfl | rfl <;> exact behind_place r

theorem added_id_retained_full :
    ∃ answers d, (ResourceSet.new 2).performAll
      ([.add "a", .add "b"] ++ .add "c" :: [.add "b", .consume "a", .add "c", .add "b", .len]) =
      some (answers, d) ∧ (d.contains "c").1 = true :=
  added_id_retained 2 _ _ (.add "c") "c" (Or.inl rfl) (by decide) (by decide) (by decide)

end LinkedResourceSet
