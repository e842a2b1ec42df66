import Mathlib.Data.List.Basic
import Mathlib.Logic.Function.Basic

/-! # Coalesced output

What comes out of a buffer that may overwrite what waits in it: a subsequence of what went in
that ends with the last of it. -/
namespace CoalescedOutput

variable {E : Type} {out inp : List E}

structure Coalesces (out inp : List E) : Prop where
  sublist : out.Sublist inp
  last : out.getLast? = inp.getLast?

theorem Coalesces.nil : Coalesces ([] : List E) [] := ⟨List.Sublist.refl _, rfl⟩

theorem Coalesces.accept (h : Coalesces out inp) (e : E) : Coalesces (out ++ [e]) (inp ++ [e]) :=
  ⟨h.sublist.append (List.Sublist.refl _), by simp⟩

theorem Coalesces.overwrite {old : E} (h : Coalesces (out ++ [old]) inp) (e : E) :
    Coalesces (out ++ [e]) (inp ++ [e]) :=
  ⟨((List.sublist_append_left out [old]).trans h.sublist).append (List.Sublist.refl _), by simp⟩

section Keyed

variable {K : Type} [DecidableEq K] {k k' : K} {log : List (K × E)}

def of (k : K) (log : List (K × E)) : List E :=
  log.filterMap fun x => if x.1 = k then some x.2 else none

@[simp] theorem of_nil : of k ([] : List (K × E)) = [] := rfl

@[simp] theorem of_own (e : E) : of k (log ++ [(k, e)]) = of k log ++ [e] := by
  simp [of]

theorem of_other (h : k' ≠ k) (e : E) : of k (log ++ [(k', e)]) = of k log := by
  simp [of, h]

end Keyed

section Outstanding

variable {K P : Type} [DecidableEq K] {holds : P → Option (K × E)} {taken given : List (K × E)}
  {k key : K} {p : P} {e : E}

def Outstanding (holds : P → Option (K × E)) (taken given : List (K × E)) (k : K) : Prop :=
  (∀ p e, holds p ≠ some (k, e)) ∧ of k taken = of k given ∨
    ∃ p e, holds p = some (k, e) ∧ of k taken = of k given ++ [e]

theorem Outstanding.settled (h : Outstanding holds taken given k) (hnone : ∀ p, holds p = none) :
    of k taken = of k given := by
  rcases h with ⟨-, heq⟩ | ⟨p, e, hp, -⟩
  · exact heq
  · cases (hnone p).symm.trans hp

variable [DecidableEq P]

theorem Outstanding.take (h : Outstanding holds taken given key) (hp : holds p = none)
    (hfree : ∀ q e', holds q ≠ some (k, e')) :
    Outstanding (Function.update holds p (some (k, e))) (taken ++ [(k, e)]) given key := by
  by_cases hkey : k = key
  · subst hkey
    rcases h with ⟨-, heq⟩ | ⟨q, e', hq, -⟩
    · exact .inr ⟨p, e, Function.update_self _ _ _, by rw [of_own, heq]⟩
    · exact absurd hq (hfree q e')
  · have hsame : of key (taken ++ [(k, e)]) = of key taken := of_other hkey e
    rcases h with ⟨hnone, heq⟩ | ⟨q, e', hq, heq⟩
    · refine .inl ⟨fun q e' hq => ?_, hsame.trans heq⟩
      by_cases hqp : q = p
      · subst hqp
        simp [hkey] at hq
      · exact hnone q e' (by rwa [Function.update_of_ne hqp] at hq)
    · have hqp : q ≠ p := fun heq => by simp [heq, hp] at hq
      exact .inr ⟨q, e', by rwa [Function.update_of_ne hqp], hsame.trans heq⟩

theorem Outstanding.give (h : Outstanding holds taken given key) (hp : holds p = some (k, e))
    (hone : ∀ q e', holds q = some (k, e') → q = p) :
    Outstanding (Function.update holds p none) taken (given ++ [(k, e)]) key := by
  by_cases hkey : k = key
  · subst hkey
    rcases h with ⟨hnone, -⟩ | ⟨q, e', hq, heq⟩
    · exact absurd hp (hnone p e)
    · obtain rfl := hone q e' hq
      obtain rfl : e = e' := by simpa using hp.symm.trans hq
      refine .inl ⟨fun r e'' hr => ?_, by rw [of_own, heq]⟩
      by_cases hrq : r = q
      · simp [hrq] at hr
      · rw [Function.update_of_ne hrq] at hr
        exact hrq (hone r e'' hr)
  · have hsame : of key (given ++ [(k, e)]) = of key given := of_other hkey e
    rcases h with ⟨hnone, heq⟩ | ⟨q, e', hq, heq⟩
    · refine .inl ⟨fun q e' hq => ?_, heq.trans hsame.symm⟩
      by_cases hqp : q = p
      · simp [hqp] at hq
      · exact hnone q e' (by rwa [Function.update_of_ne hqp] at hq)
    · have hqp : q ≠ p := by
        intro heq'
        rw [heq', hp] at hq
        simp [hkey] at hq
      exact .inr ⟨q, e', by rwa [Function.update_of_ne hqp], by rw [heq, hsame]⟩

end Outstanding

section Increasing

variable {l m : List ℕ} {x last : ℕ}

theorem le_last (h : l.Pairwise (· < ·)) (hlast : l.getLast? = some last) (hx : x ∈ l) :
    x ≤ last := by
  obtain ⟨before, rfl⟩ := List.getLast?_eq_some_iff.mp hlast
  rcases List.mem_append.mp hx with hx | hx
  · exact Nat.le_of_lt ((List.pairwise_append.mp h).2.2 x hx last (List.mem_singleton_self last))
  · exact Nat.le_of_eq (List.mem_singleton.mp hx)

theorem last_eq_of_subset (hl : l.Pairwise (· < ·)) (hm : m.Pairwise (· < ·))
    (hsub : ∀ n ∈ l, n ∈ m) (hlast : ∀ n, m.getLast? = some n → n ∈ l) :
    l.getLast? = m.getLast? := by
  cases hm' : m.getLast? with
  | none =>
    have hnil : m = [] := List.getLast?_eq_none_iff.mp hm'
    rw [List.getLast?_eq_none_iff, List.eq_nil_iff_forall_not_mem]
    intro n hn
    simpa [hnil] using hsub n hn
  | some n =>
    have hn := hlast n hm'
    cases hl' : l.getLast? with
    | none => simp [List.getLast?_eq_none_iff.mp hl'] at hn
    | some k =>
      have hle : n ≤ k := le_last hl hl' hn
      have hge : k ≤ n := le_last hm hm' (hsub k (List.mem_of_getLast? hl'))
      rw [Nat.le_antisymm hge hle]

end Increasing

end CoalescedOutput
