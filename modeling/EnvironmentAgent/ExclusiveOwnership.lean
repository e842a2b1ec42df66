import Mathlib.Logic.Function.Basic
import Mathlib.Data.Nat.Notation

/-! # Exclusive ownership

A lock or a token that at most one of many parties holds, told by the local states of the
parties. The world knows whether it is held; a party takes it only when it is not. -/
namespace ExclusiveOwnership

variable {M : Type} {holds : M → Prop} {taken taken' : Prop} {ms : ℕ → M} {i j : ℕ} {m : M}

structure Owned (holds : M → Prop) (taken : Prop) (ms : ℕ → M) : Prop where
  unique : ∀ i j, holds (ms i) → holds (ms j) → i = j
  taken_iff : taken ↔ ∃ i, holds (ms i)

theorem Owned.free (h : ∀ i, ¬ holds (ms i)) (ht : ¬ taken) : Owned holds taken ms :=
  ⟨fun i _ hi => absurd hi (h i), fun h => absurd h ht, fun ⟨i, hi⟩ => absurd hi (h i)⟩

theorem Owned.not_holds (h : Owned holds taken ms) (hi : holds (ms i)) (hne : j ≠ i) :
    ¬ holds (ms j) := fun hj => hne (h.unique j i hj hi)

theorem Owned.keep (h : Owned holds taken ms) (hm : holds m ↔ holds (ms i))
    (ht : taken' ↔ taken) : Owned holds taken' (Function.update ms i m) := by
  have same : ∀ j, holds (Function.update ms i m j) ↔ holds (ms j) := by
    intro j
    by_cases hji : j = i
    · subst hji
      rw [Function.update_self]
      exact hm
    · rw [Function.update_of_ne hji]
  refine ⟨fun j k hj hk => h.unique j k ((same j).mp hj) ((same k).mp hk), ?_⟩
  rw [ht, h.taken_iff]
  exact exists_congr fun j => (same j).symm

theorem Owned.acquire (h : Owned holds taken ms) (hfree : ¬ taken) (hm : holds m)
    (ht : taken') : Owned holds taken' (Function.update ms i m) := by
  have none : ∀ j, ¬ holds (ms j) := fun j hj => hfree (h.taken_iff.mpr ⟨j, hj⟩)
  have own : ∀ j, holds (Function.update ms i m j) → j = i := by
    intro j hj
    by_contra hji
    rw [Function.update_of_ne hji] at hj
    exact none j hj
  refine ⟨fun j k hj hk => (own j hj).trans (own k hk).symm, fun _ => ⟨i, ?_⟩, fun _ => ht⟩
  rw [Function.update_self]
  exact hm

theorem Owned.release (h : Owned holds taken ms) (hi : holds (ms i)) (hm : ¬ holds m)
    (ht : ¬ taken') : Owned holds taken' (Function.update ms i m) := by
  refine .free (fun j hj => ?_) ht
  by_cases hji : j = i
  · subst hji
    rw [Function.update_self] at hj
    exact hm hj
  · rw [Function.update_of_ne hji] at hj
    exact h.not_holds hi hji hj

end ExclusiveOwnership
