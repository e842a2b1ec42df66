import Mathlib.Data.List.Basic
import Mathlib.Data.List.Forall2
import Mathlib.Data.Nat.Notation

/-! # Pages behind tokens

A listing is read page by page: a call takes a token and returns some of the items and the token of
the next page, if there is one. -/
namespace PagedListing

variable {T I E O : Type}

structure Page (T I : Type) where
  items : List I
  next : Option T
  deriving DecidableEq, Repr

abbrev PageCall (T I E : Type) := T → Option (Except E (Page T I)) → Prop

inductive Follows (call : PageCall T I E) (start : T) : List (List I) → Option T → Prop where
  | start : Follows call start [] (some start)
  | page {pages : List (List I)} {token : T} {items : List I} {next : Option T}
      (h : Follows call start pages (some token))
      (hcall : call token (some (.ok ⟨items, next⟩))) : Follows call start (pages ++ [items]) next

/-- Following the tokens comes to an end and has then shown every object once, in order. No other
token makes a call panic. -/
structure Enumerates (call : PageCall T I E) (start : T) (invalid : E) (shows : O → I → Prop)
    (objects : List O) : Prop where
  bounded : ∃ n, ∀ pages next, Follows call start pages next → pages.length ≤ n
  accepted : ∀ pages token r, Follows call start pages (some token) → call token r →
    ∃ page, r = some (.ok page)
  finishes : ∃ pages, Follows call start pages none
  complete : ∀ pages, Follows call start pages none → List.Forall₂ shows objects pages.flatten
  safe : ∀ token r, call token r → r = some (.error invalid) ∨ ∃ page, r = some (.ok page)

structure Tokens (T : Type) where
  start : T
  tokenOf : ℕ → T
  offsetOf : T → Option ℕ
  bound : ℕ
  offsetOf_start : offsetOf start = some 0
  offsetOf_tokenOf : ∀ n < bound, offsetOf (tokenOf n) = some n

def Window (tokens : Tokens T) (invalid : E) (shows : O → I → Prop) (objects : List O) (size : ℕ)
    (token : T) (r : Option (Except E (Page T I))) : Prop :=
  (tokens.offsetOf token = none ∧ r = some (.error invalid)) ∨
    ∃ offset items, tokens.offsetOf token = some offset ∧
      List.Forall₂ shows ((objects.drop offset).take size) items ∧
      r = some (.ok ⟨items, if offset + size < objects.length then
        some (tokens.tokenOf (offset + size)) else none⟩)

structure Serves (tokens : Tokens T) (call : PageCall T I E) (invalid : E) (shows : O → I → Prop)
    (objects : List O) (size : ℕ) : Prop where
  responds : ∀ token, ∃ r, call token r
  windows : ∀ token r, call token r → Window tokens invalid shows objects size token r

variable {r : Option (Except E (Page T I))}

namespace Serves

variable {tokens : Tokens T} {call : PageCall T I E} {invalid : E} {shows : O → I → Prop}
  {objects : List O} {size : ℕ} {pages : List (List I)} {next : Option T}

theorem page_or_invalid (h : Serves tokens call invalid shows objects size) {token : T}
    (hcall : call token r) :
    r = some (.error invalid) ∨ ∃ page, r = some (.ok page) := by
  rcases h.windows token r hcall with ⟨_, hr⟩ | ⟨_, _, _, _, hr⟩
  · exact Or.inl hr
  · exact Or.inr ⟨_, hr⟩

theorem answers (h : Serves tokens call invalid shows objects size) {token : T} {offset : ℕ}
    (hoffset : tokens.offsetOf token = some offset) (hcall : call token r) :
    ∃ items, List.Forall₂ shows ((objects.drop offset).take size) items ∧
      r = some (.ok ⟨items, if offset + size < objects.length then
        some (tokens.tokenOf (offset + size)) else none⟩) := by
  rcases h.windows token r hcall with ⟨hnone, _⟩ | ⟨offset', items, hsome, hitems, hr⟩
  · rw [hoffset] at hnone
    cases hnone
  · rw [hoffset] at hsome
    cases hsome
    exact ⟨items, hitems, hr⟩

theorem follows (h : Serves tokens call invalid shows objects size)
    (hsize : 0 < size ∨ objects.length = 0) (hbound : objects.length ≤ tokens.bound)
    (hf : Follows call tokens.start pages next) :
    ∃ offset, List.Forall₂ shows (objects.take offset) pages.flatten ∧
      (∀ token, next = some token → tokens.offsetOf token = some offset ∧
        pages.length ≤ offset ∧ offset ≤ objects.length) ∧
      (next = none → objects.length ≤ offset ∧ pages.length ≤ objects.length + 1) := by
  induction hf with
  | start =>
    refine ⟨0, List.Forall₂.nil, ?_, fun hnone => nomatch hnone⟩
    intro token htoken
    cases htoken
    exact ⟨tokens.offsetOf_start, by simp, by omega⟩
  | @page pages token items next _ hcall ih =>
    obtain ⟨offset, hshown, hnext, _⟩ := ih
    obtain ⟨hoffset, hpages, hle⟩ := hnext token rfl
    obtain ⟨items', hitems, hpage⟩ := h.answers hoffset hcall
    cases hpage
    refine ⟨offset + size, ?_, ?_, ?_⟩
    · rw [List.take_add, List.flatten_append, List.flatten_singleton]
      exact List.rel_append hshown hitems
    · intro token' htoken'
      split at htoken'
      · rename_i hlt
        cases htoken'
        rw [List.length_append, List.length_singleton]
        exact ⟨tokens.offsetOf_tokenOf _ (by omega), by omega, by omega⟩
      · cases htoken'
    · intro hnone
      split at hnone
      · cases hnone
      · rw [List.length_append, List.length_singleton]
        omega

theorem reaches (h : Serves tokens call invalid shows objects size)
    (hsize : 0 < size ∨ objects.length = 0) (hbound : objects.length ≤ tokens.bound) {left : ℕ} {token : T} {offset : ℕ}
    (hleft : objects.length ≤ offset + left)
    (hf : Follows call tokens.start pages (some token))
    (hoffset : tokens.offsetOf token = some offset) :
    ∃ pages', Follows call tokens.start pages' none := by
  induction left generalizing pages token offset with
  | zero =>
    obtain ⟨r, hr⟩ := h.responds token
    obtain ⟨items, _, hpage⟩ := h.answers hoffset hr
    rw [if_neg (by omega)] at hpage
    rw [hpage] at hr
    exact ⟨_, .page hf hr⟩
  | succ left ih =>
    obtain ⟨r, hr⟩ := h.responds token
    obtain ⟨items, _, hpage⟩ := h.answers hoffset hr
    rw [hpage] at hr
    by_cases hlt : offset + size < objects.length
    · rw [if_pos hlt] at hr
      exact ih (by omega) (.page hf hr) (tokens.offsetOf_tokenOf _ (by omega))
    · rw [if_neg hlt] at hr
      exact ⟨_, .page hf hr⟩

theorem enumerates (h : Serves tokens call invalid shows objects size)
    (hsize : 0 < size ∨ objects.length = 0) (hbound : objects.length ≤ tokens.bound) :
    Enumerates call tokens.start invalid shows objects where
  bounded := by
    refine ⟨objects.length + 1, ?_⟩
    intro pages next hf
    obtain ⟨offset, _, hsome, hnone⟩ := h.follows hsize hbound hf
    cases next with
    | none => exact (hnone rfl).2
    | some token =>
      obtain ⟨_, hpages, hle⟩ := hsome token rfl
      omega
  accepted := by
    intro pages token r hf hcall
    obtain ⟨offset, _, hsome, _⟩ := h.follows hsize hbound hf
    obtain ⟨items, _, hr⟩ := h.answers (hsome token rfl).1 hcall
    exact ⟨_, hr⟩
  finishes := h.reaches hsize hbound (Nat.le_add_left _ 0) .start tokens.offsetOf_start
  complete := by
    intro pages hf
    obtain ⟨offset, hshown, _, hnone⟩ := h.follows hsize hbound hf
    rwa [List.take_of_length_le (hnone rfl).1] at hshown
  safe _ _ hcall := h.page_or_invalid hcall

theorem stalls (h : Serves tokens call invalid shows objects 0) (hne : 0 < objects.length)
    (hbound : 0 < tokens.bound) (n : ℕ) :
    ∃ pages token, Follows call tokens.start pages (some token) ∧
      tokens.offsetOf token = some 0 ∧ pages.length = n := by
  induction n with
  | zero => exact ⟨[], tokens.start, .start, tokens.offsetOf_start, rfl⟩
  | succ n ih =>
    obtain ⟨pages, token, hf, hoffset, hlength⟩ := ih
    obtain ⟨r, hr⟩ := h.responds token
    obtain ⟨items, _, hpage⟩ := h.answers hoffset hr
    rw [hpage, if_pos hne] at hr
    exact ⟨_, _, .page hf hr, tokens.offsetOf_tokenOf 0 hbound, by simp [hlength]⟩

theorem enumerates_iff (h : Serves tokens call invalid shows objects size)
    (hbound : objects.length ≤ tokens.bound) :
    Enumerates call tokens.start invalid shows objects ↔ 0 < size ∨ objects.length = 0 := by
  constructor
  · intro henum
    by_contra hcontra
    have hzero : size = 0 := by omega
    subst hzero
    obtain ⟨n, hn⟩ := henum.bounded
    obtain ⟨pages, token, hf, _, hlength⟩ := h.stalls (by omega) (by omega) (n + 1)
    have hle := hn pages _ hf
    omega
  · intro hsize
    exact h.enumerates hsize hbound

end Serves

end PagedListing
