import Mathlib.Data.Finset.Card

/-! # Lists of elements and recency

A list whose elements are known by handles that stay valid while the elements move, and a bounded
list of distinct values in the order of their last use. -/
namespace RecencyLists

variable {α : Type*}

abbrev Handle := ℕ

structure ElementList (α : Type*) where
  elements : List (Handle × α)
  fresh : Handle
  nodup : (elements.map Prod.fst).Nodup
  below : ∀ e ∈ elements, e.1 < fresh

variable {h : Handle} {a : α} {es : List (Handle × α)}

namespace ElementList

def empty : ElementList α := ⟨[], 0, List.nodup_nil, by simp⟩

def values (l : ElementList α) : List α := l.elements.map Prod.snd

def Holds (l : ElementList α) (h : Handle) (a : α) : Prop := (h, a) ∈ l.elements

def back (l : ElementList α) : Option (Handle × α) := l.elements.getLast?

def pushFront (l : ElementList α) (a : α) : Handle × ElementList α :=
  (l.fresh,
    { elements := (l.fresh, a) :: l.elements
      fresh := l.fresh + 1
      nodup := by
        refine List.nodup_cons.mpr ⟨?_, l.nodup⟩
        intro hmem
        obtain ⟨e, he, hfresh⟩ := List.mem_map.mp hmem
        exact absurd (l.below e he) (hfresh ▸ Nat.lt_irrefl e.1)
      below := by
        intro e he
        rcases List.mem_cons.mp he with rfl | he
        · exact Nat.lt_succ_self l.fresh
        · exact Nat.lt_succ_of_lt (l.below e he) })

def remove (l : ElementList α) (h : Handle) : ElementList α where
  elements := l.elements.filter (·.1 ≠ h)
  fresh := l.fresh
  nodup := l.nodup.sublist (List.filter_sublist.map _)
  below e he := l.below e (List.mem_of_mem_filter he)

def moveToFront (l : ElementList α) (h : Handle) : ElementList α where
  elements := l.elements.filter (·.1 = h) ++ l.elements.filter (·.1 ≠ h)
  fresh := l.fresh
  nodup := by
    rw [List.map_append]
    refine List.nodup_append.mpr ⟨l.nodup.sublist (List.filter_sublist.map _),
      l.nodup.sublist (List.filter_sublist.map _), ?_⟩
    intro x hx y hy
    obtain ⟨e, he, rfl⟩ := List.mem_map.mp hx
    obtain ⟨e', he', rfl⟩ := List.mem_map.mp hy
    have hleft : e.1 = h := by simpa using (List.mem_filter.mp he).2
    have hright : e'.1 ≠ h := by simpa using (List.mem_filter.mp he').2
    exact fun heq => hright (heq ▸ hleft)
  below e he := by
    rcases List.mem_append.mp he with he | he
    · exact l.below e (List.mem_of_mem_filter he)
    · exact l.below e (List.mem_of_mem_filter he)

variable {l : ElementList α}

theorem Holds.mem_values (hh : l.Holds h a) :
    a ∈ l.values := List.mem_map_of_mem hh

theorem mem_values : a ∈ l.values ↔ ∃ h, l.Holds h a := by
  simp [values, Holds]

theorem Holds.value_unique {b : α} (ha : l.Holds h a) (hb : l.Holds h b) : a = b := by
  have heq := List.inj_on_of_nodup_map l.nodup ha hb rfl
  exact congrArg Prod.snd heq

@[simp] theorem holds_empty : ¬ (empty : ElementList α).Holds h a :=
  List.not_mem_nil

@[simp] theorem values_empty : (empty : ElementList α).values = [] := rfl

@[simp] theorem values_pushFront (l : ElementList α) (a : α) :
    (l.pushFront a).2.values = a :: l.values := rfl

theorem holds_pushFront {b : α} :
    (l.pushFront a).2.Holds h b ↔ h = (l.pushFront a).1 ∧ b = a ∨ l.Holds h b := by
  simp [Holds, pushFront]

theorem holds_remove {h' : Handle} {b : α} :
    (l.remove h).Holds h' b ↔ h' ≠ h ∧ l.Holds h' b := by
  simp [Holds, remove, and_comm]

theorem holds_moveToFront {h' : Handle} {b : α} :
    (l.moveToFront h).Holds h' b ↔ l.Holds h' b := by
  by_cases hh : h' = h
  · simp [Holds, moveToFront, hh]
  · simp [Holds, moveToFront, hh]

theorem map_filter_ne [DecidableEq α] (hh : (es.map Prod.fst).Nodup) (ha : (es.map Prod.snd).Nodup)
    (hmem : (h, a) ∈ es) :
    (es.filter (·.1 ≠ h)).map Prod.snd = (es.map Prod.snd).erase a := by
  induction es with
  | nil => cases hmem
  | cons e es ih =>
    obtain ⟨hfst, hh⟩ := List.nodup_cons.mp hh
    obtain ⟨hsnd, ha⟩ := List.nodup_cons.mp ha
    rcases List.mem_cons.mp hmem with rfl | hmem
    · have hkeep : es.filter (·.1 ≠ h) = es := by
        refine List.filter_eq_self.mpr ?_
        intro e he
        simpa using fun heq : e.1 = h => hfst (List.mem_map.mpr ⟨e, he, heq⟩)
      rw [List.filter_cons_of_neg (by simp), hkeep, List.map_cons, List.erase_cons_head]
    · have hneFst : e.1 ≠ h := fun heq => hfst (heq ▸ List.mem_map_of_mem hmem)
      have hneSnd : e.2 ≠ a := fun heq => hsnd (heq ▸ List.mem_map_of_mem hmem)
      rw [List.filter_cons_of_pos (by simpa using hneFst), List.map_cons, List.map_cons,
        List.erase_cons_tail (by simpa using hneSnd), ih hh ha hmem]

theorem values_remove [DecidableEq α] (hl : l.values.Nodup) (hh : l.Holds h a) :
    (l.remove h).values = l.values.erase a :=
  map_filter_ne l.nodup hl hh

theorem filter_handle (hh : (es.map Prod.fst).Nodup) (hmem : (h, a) ∈ es) :
    es.filter (·.1 = h) = [(h, a)] := by
  induction es with
  | nil => cases hmem
  | cons e es ih =>
    obtain ⟨hfst, hh⟩ := List.nodup_cons.mp hh
    rcases List.mem_cons.mp hmem with rfl | hmem
    · have hnone : es.filter (·.1 = h) = [] := by
        refine List.filter_eq_nil_iff.mpr ?_
        intro e he
        simpa using fun heq : e.1 = h => hfst (List.mem_map.mpr ⟨e, he, heq⟩)
      simp [hnone]
    · have hne : e.1 ≠ h := fun heq => hfst (heq ▸ List.mem_map_of_mem hmem)
      rw [List.filter_cons_of_neg (by simpa using hne), ih hh hmem]

theorem values_moveToFront [DecidableEq α] (hl : l.values.Nodup) (hh : l.Holds h a) :
    (l.moveToFront h).values = a :: l.values.erase a := by
  have hrest := map_filter_ne l.nodup hl hh
  simp only [values, moveToFront, List.map_append, filter_handle l.nodup hh, hrest]
  rfl

theorem back_eq_some (hb : l.back = some (h, a)) :
    l.Holds h a ∧ l.values.getLast? = some a := by
  refine ⟨List.mem_of_getLast? hb, ?_⟩
  rw [values, List.getLast?_map]
  exact congrArg (Option.map Prod.snd) hb

theorem back_isSome (hne : l.values ≠ []) : ∃ h a, l.back = some (h, a) := by
  cases hb : l.back with
  | none =>
    rw [back, List.getLast?_eq_none_iff] at hb
    exact absurd (by rw [values, hb]; rfl) hne
  | some e => exact ⟨e.1, e.2, rfl⟩

end ElementList

section

/-- `a` is in the list, and what has come before it since is in `s`. -/
def Behind (s : Finset α) (a : α) (l : List α) : Prop :=
  ∃ front back, l = front ++ a :: back ∧ ∀ b ∈ front, b ∈ s

variable {s : Finset α} {l : List α} {b : α}

theorem Behind.front (a : α) (l : List α) : Behind s a (a :: l) := ⟨[], l, rfl, by simp⟩

theorem Behind.mem (h : Behind s a l) : a ∈ l := by
  obtain ⟨front, back, rfl, _⟩ := h
  simp

theorem Behind.cons (h : Behind s a l) (hb : b ∈ s) : Behind s a (b :: l) := by
  obtain ⟨front, back, rfl, hfront⟩ := h
  exact ⟨b :: front, back, rfl, List.forall_mem_cons.mpr ⟨hb, hfront⟩⟩

variable [DecidableEq α]

def touch (l : List α) (a : α) : List α := if a ∈ l then a :: l.erase a else l

/-- A new value is put in front, and when the list is full the last one makes room. -/
def place (cap : ℕ) (l : List α) (a : α) : List α :=
  if a ∈ l then a :: l.erase a
  else if cap ≤ l.length then a :: l.dropLast
  else a :: l

structure Bounded (cap : ℕ) (l : List α) : Prop where
  nodup : l.Nodup
  length_le : l.length ≤ cap

variable {cap : ℕ} {l : List α}

omit [DecidableEq α] in
theorem Bounded.nil : Bounded cap ([] : List α) := ⟨List.nodup_nil, Nat.zero_le cap⟩

theorem Bounded.erase (h : Bounded cap l) (a : α) : Bounded cap (l.erase a) :=
  ⟨h.nodup.erase a, Nat.le_trans List.length_erase_le h.length_le⟩

theorem Bounded.refresh (h : Bounded cap l) (ha : a ∈ l) :
    Bounded cap (a :: l.erase a) := by
  refine ⟨List.nodup_cons.mpr ⟨h.nodup.not_mem_erase, h.nodup.erase a⟩, ?_⟩
  rw [List.length_cons, List.length_erase_add_one ha]
  exact h.length_le

theorem erase_getLast (hl : l.Nodup) (hlast : l.getLast? = some a) :
    l.erase a = l.dropLast := by
  obtain ⟨front, rfl⟩ := List.getLast?_eq_some_iff.mp hlast
  have ha : a ∉ front := by
    intro hmem
    exact (List.nodup_append.mp hl).2.2 a hmem a (List.mem_singleton_self a) rfl
  rw [List.erase_append_right _ ha]
  simp

theorem Behind.erase (h : Behind s a l) (hb : b ≠ a) : Behind s a (l.erase b) := by
  obtain ⟨front, back, rfl, hfront⟩ := h
  by_cases hmem : b ∈ front
  · rw [List.erase_append_left _ hmem]
    exact ⟨_, back, rfl, fun c hc => hfront c (List.mem_of_mem_erase hc)⟩
  · rw [List.erase_append_right _ hmem, List.erase_cons_tail (by simpa using hb.symm)]
    exact ⟨front, _, rfl, hfront⟩

theorem Behind.refresh (h : Behind s a l) (hb : b = a ∨ b ∈ s) :
    Behind s a (b :: l.erase b) := by
  by_cases hba : b = a
  · rw [hba]
    exact Behind.front a _
  · exact (h.erase hba).cons (hb.resolve_left hba)

theorem Behind.touch (h : Behind s a l) (hb : b = a ∨ b ∈ s) : Behind s a (touch l b) := by
  unfold RecencyLists.touch
  split
  · exact h.refresh hb
  · exact h

/-- Were `a` the last one of a full list, `b` and those before `a` would be too many for `s`. -/
theorem Behind.dropLast (h : Behind s a l) (hl : Bounded cap l) (hs : s.card < cap)
    (hb : b ∈ s) (hnew : b ∉ l) (hfull : cap ≤ l.length) : Behind s a l.dropLast := by
  obtain ⟨front, back, rfl, hfront⟩ := h
  rw [List.dropLast_append_cons]
  cases back with
  | nil =>
    have hnodup : (b :: front).Nodup :=
      List.nodup_cons.mpr ⟨fun hmem => hnew (List.mem_append_left _ hmem), hl.nodup.of_append_left⟩
    have hcard : (b :: front).toFinset.card ≤ s.card := by
      refine Finset.card_le_card fun c hc => ?_
      exact List.forall_mem_cons.mpr ⟨hb, hfront⟩ c (List.mem_toFinset.mp hc)
    rw [List.toFinset_card_of_nodup hnodup, List.length_cons] at hcard
    rw [List.length_append, List.length_singleton] at hfull
    omega
  | cons c back => exact ⟨front, _, rfl, hfront⟩

theorem Behind.place (h : Behind s a l) (hl : Bounded cap l) (hs : s.card < cap)
    (hb : b = a ∨ b ∈ s) : Behind s a (place cap l b) := by
  unfold RecencyLists.place
  split
  · exact h.refresh hb
  · rename_i hnew
    have hbs : b ∈ s := hb.resolve_left fun hba => hnew (hba ▸ h.mem)
    split
    · rename_i hfull
      exact (h.dropLast hl hs hbs hnew hfull).cons hbs
    · exact h.cons hbs

end

end RecencyLists
