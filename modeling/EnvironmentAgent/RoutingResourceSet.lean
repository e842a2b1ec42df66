import Mathlib.Data.Finset.Card
import Mathlib.Data.Finset.Dedup
import Mathlib.Data.List.Nodup

/-! # The shared ledgers of the router and the retry processor

`ResourceSet` is the bounded recency set of `resourceset.go`, front first, an element being named
by the id it holds. `KeyLock` is the set of `keylock.go`. Each method body runs under the owner's
mutex and is one atomic operation. -/
namespace RoutingResourceSet

structure ResourceSet where
  maxSize : ℕ
  items : Finset String
  order : List String
  nodup : order.Nodup
  agree : items = order.toFinset
  bounded : order.length ≤ maxSize
  positive : 0 < maxSize

variable {s : ResourceSet} {r : String}

namespace ResourceSet

instance : Membership String ResourceSet := ⟨fun s r => r ∈ s.items⟩
instance (r : String) (s : ResourceSet) : Decidable (r ∈ s) :=
  inferInstanceAs (Decidable (r ∈ s.items))

theorem mem_items : r ∈ s.items ↔ r ∈ s := Iff.rfl
theorem mem_order : r ∈ s.order ↔ r ∈ s := by
  rw [← mem_items, s.agree, List.mem_toFinset]

theorem card_items (s : ResourceSet) : s.items.card = s.order.length := by
  rw [s.agree, List.toFinset_card_of_nodup s.nodup]

def new (maxSize : ℤ) : ResourceSet where
  maxSize := if maxSize ≤ 0 then 1 else maxSize.toNat
  items := ∅
  order := []
  nodup := List.nodup_nil
  agree := rfl
  bounded := Nat.zero_le _
  positive := by split <;> omega

def moveToFront (s : ResourceSet) (r : String) (h : r ∈ s) : ResourceSet where
  maxSize := s.maxSize
  items := s.items
  order := r :: s.order.erase r
  nodup := List.nodup_cons.mpr ⟨s.nodup.not_mem_erase, s.nodup.erase r⟩
  agree := by
    rw [s.agree]
    ext x
    by_cases hx : x = r
    · subst hx; simpa using mem_order.mpr h
    · simp [List.mem_erase_of_ne, hx]
  bounded := by
    rw [List.length_cons, List.length_erase_add_one (mem_order.mpr h)]
    exact s.bounded
  positive := s.positive

def drop (s : ResourceSet) (r : String) : ResourceSet where
  maxSize := s.maxSize
  items := s.items.erase r
  order := s.order.erase r
  nodup := s.nodup.erase r
  agree := by
    ext x
    rw [s.agree, Finset.mem_erase, List.mem_toFinset, List.mem_toFinset, s.nodup.mem_erase_iff]
  bounded := (List.length_erase_le).trans s.bounded
  positive := s.positive

/-- The eviction of `insert`: the back element goes when the map is full. -/
def evict (s : ResourceSet) : ResourceSet :=
  if s.maxSize ≤ s.items.card then
    match s.order.getLast? with
    | some back => s.drop back
    | none => s
  else s

theorem evict_maxSize (s : ResourceSet) : s.evict.maxSize = s.maxSize := by
  unfold evict
  split
  · split <;> rfl
  · rfl

theorem evict_room (s : ResourceSet) : s.evict.order.length < s.evict.maxSize := by
  unfold evict
  by_cases hfull : s.maxSize ≤ s.items.card
  · rw [if_pos hfull]
    have hpos := s.positive
    rw [card_items] at hfull
    have hne : s.order ≠ [] := by intro h; simp [h] at hfull; omega
    rw [List.getLast?_eq_some_getLast hne]
    have hmem : s.order.getLast hne ∈ s.order := List.getLast_mem hne
    have hlen := List.length_erase_add_one hmem
    have hb := s.bounded
    show (s.order.erase (s.order.getLast hne)).length < s.maxSize
    omega
  · rw [if_neg hfull, ← card_items]
    omega

theorem mem_evict (h : r ∈ s.evict) : r ∈ s := by
  unfold evict at h
  split at h
  · split at h
    · exact (Finset.mem_erase.mp h).2
    · exact h
  · exact h

def pushFront (s : ResourceSet) (r : String) (hr : r ∉ s) (hroom : s.order.length < s.maxSize) :
    ResourceSet where
  maxSize := s.maxSize
  items := insert r s.items
  order := r :: s.order
  nodup := List.nodup_cons.mpr ⟨fun h => hr (mem_order.mp h), s.nodup⟩
  agree := by rw [s.agree, List.toFinset_cons]
  bounded := hroom
  positive := s.positive

def insertId (s : ResourceSet) (r : String) : Bool × ResourceSet :=
  if h : r ∈ s then (false, s.moveToFront r h)
  else (true, s.evict.pushFront r (fun hm => h (mem_evict hm)) s.evict_room)

def add (s : ResourceSet) (r : String) : ResourceSet := (s.insertId r).2
def addIfAbsent (s : ResourceSet) (r : String) : Bool × ResourceSet := s.insertId r

def contains (s : ResourceSet) (r : String) : Bool × ResourceSet :=
  if h : r ∈ s then (true, s.moveToFront r h) else (false, s)

def consume (s : ResourceSet) (r : String) : Bool × ResourceSet :=
  if r ∈ s then (true, s.drop r) else (false, s)

def remove (s : ResourceSet) (r : String) : ResourceSet :=
  if r ∈ s then s.drop r else s

def len (s : ResourceSet) : ℕ := s.items.card

@[simp] theorem mem_moveToFront {x : String} {h : r ∈ s} :
    x ∈ s.moveToFront r h ↔ x ∈ s := Iff.rfl

theorem mem_drop {x : String} : x ∈ s.drop r ↔ x ≠ r ∧ x ∈ s :=
  Finset.mem_erase

theorem mem_insertId_self (s : ResourceSet) (r : String) : r ∈ (s.insertId r).2 := by
  unfold insertId
  split
  · assumption
  · exact Finset.mem_insert_self _ _

theorem insertId_fst (s : ResourceSet) (r : String) : (s.insertId r).1 = true ↔ r ∉ s := by
  unfold insertId
  split <;> simp_all

theorem mem_of_mem_insertId {x : String} (h : x ∈ (s.insertId r).2) :
    x = r ∨ x ∈ s := by
  unfold insertId at h
  split at h
  · exact Or.inr h
  · rcases Finset.mem_insert.mp h with rfl | h
    · exact Or.inl rfl
    · exact Or.inr (mem_evict h)

def Room (s : ResourceSet) (r : String) : Prop := r ∈ s ∨ s.items.card < s.maxSize

instance (s : ResourceSet) (r : String) : Decidable (s.Room r) :=
  inferInstanceAs (Decidable (_ ∨ _))

theorem mem_insertId {x : String} (hroom : s.Room r) :
    x ∈ (s.insertId r).2 ↔ x = r ∨ x ∈ s := by
  refine ⟨mem_of_mem_insertId, ?_⟩
  rintro (rfl | hx)
  · exact mem_insertId_self s x
  · unfold insertId
    split
    · exact hx
    · rename_i hr
      have hfree : ¬ s.maxSize ≤ s.items.card := Nat.not_le.mpr (hroom.resolve_left hr)
      refine Finset.mem_insert_of_mem ?_
      unfold evict
      rw [if_neg hfree]
      exact hx

@[simp] theorem insertId_maxSize (s : ResourceSet) (r : String) :
    (s.insertId r).2.maxSize = s.maxSize := by
  unfold insertId
  split
  · rfl
  · exact s.evict_maxSize

@[simp] theorem contains_maxSize (s : ResourceSet) (r : String) :
    (s.contains r).2.maxSize = s.maxSize := by
  unfold contains
  split <;> rfl

@[simp] theorem consume_maxSize (s : ResourceSet) (r : String) :
    (s.consume r).2.maxSize = s.maxSize := by
  unfold consume
  split <;> rfl

@[simp] theorem remove_maxSize (s : ResourceSet) (r : String) :
    (s.remove r).maxSize = s.maxSize := by
  unfold remove
  split <;> rfl

@[simp] theorem contains_fst (s : ResourceSet) (r : String) :
    (s.contains r).1 = true ↔ r ∈ s := by
  unfold contains
  split <;> simp_all

@[simp] theorem mem_contains {x : String} :
    x ∈ (s.contains r).2 ↔ x ∈ s := by
  unfold contains
  split <;> exact Iff.rfl

@[simp] theorem consume_fst (s : ResourceSet) (r : String) :
    (s.consume r).1 = true ↔ r ∈ s := by
  unfold consume
  split <;> simp_all

@[simp] theorem mem_consume {x : String} :
    x ∈ (s.consume r).2 ↔ x ≠ r ∧ x ∈ s := by
  unfold consume
  split
  · exact mem_drop
  · rename_i h
    exact ⟨fun hx => ⟨fun e => h (e ▸ hx), hx⟩, And.right⟩

@[simp] theorem mem_remove {x : String} :
    x ∈ s.remove r ↔ x ≠ r ∧ x ∈ s := by
  unfold remove
  split
  · exact mem_drop
  · rename_i h
    exact ⟨fun hx => ⟨fun e => h (e ▸ hx), hx⟩, And.right⟩

end ResourceSet

structure KeyLock where
  items : Finset String

namespace KeyLock

def new : KeyLock := ⟨∅⟩

def addIfAbsent (k : KeyLock) (r : String) : Bool × KeyLock :=
  if r ∈ k.items then (false, k) else (true, ⟨insert r k.items⟩)

def remove (k : KeyLock) (r : String) : KeyLock := ⟨k.items.erase r⟩

def len (k : KeyLock) : ℕ := k.items.card

end KeyLock

end RoutingResourceSet
