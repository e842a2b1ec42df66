import EnvironmentAgent.Quantities
import Mathlib.Tactic.IntervalCases

/-! # Memory sizes

The unit conversions of `container/units` and `database/units`: a table from the API's units such as
`GB`, which are meant as binary ones, and one that leads back. -/
namespace MemorySizes

open DecimalText Quantities

abbrev Table := List (Text × Text)

def cutSuffix (s suffix : Text) : Option Text :=
  if suffix.isSuffixOf s then some (s.take (s.length - suffix.length)) else none

def replaceSuffix (table : Table) (s : Text) : Option Text :=
  table.findSome? fun u => (cutSuffix s u.1).map (· ++ u.2)

inductive ConvertError where
  | unsupported (text : Text)
  | quantity (e : ParseError)
  deriving DecidableEq, Repr

def ConvertError.message : ConvertError → String
  | .unsupported text => "unsupported memory unit in \"" ++ String.ofList text ++ "\""
  | .quantity e => e.message

def convert (table : Table) (s : Text) : Except ConvertError Quantity :=
  match replaceSuffix table s with
  | none => .error (.unsupported s)
  | some text =>
    match parseQuantity text with
    | .error e => .error (.quantity e)
    | .ok q => .ok q

def toAPI (table : Table) (text : Text) : Text := (replaceSuffix table text).getD text

namespace Container

def apiToK8s : Table :=
  [(['M', 'B'], ['M', 'i']), (['G', 'B'], ['G', 'i']), (['T', 'B'], ['T', 'i'])]

def k8sToAPI : Table :=
  [(['M', 'i'], ['M', 'B']), (['G', 'i'], ['G', 'B']), (['T', 'i'], ['T', 'B'])]

-- `order` is the order in which the map is iterated, `string` the quantity's `String()`

def convertMemory (order : Table) (memoryStr : Text) : Except ConvertError Quantity :=
  convert order memoryStr

def memoryQuantityToAPI (string : Quantity → Text) (order : Table) (q : Quantity) : Text :=
  toAPI order (string q)

end Container

namespace Database

def apiToK8s : Table :=
  [(['M', 'B'], ['M', 'i']), (['G', 'B'], ['G', 'i']), (['T', 'B'], ['T', 'i']),
    (['M', 'i', 'B'], ['M', 'i']), (['G', 'i', 'B'], ['G', 'i']), (['T', 'i', 'B'], ['T', 'i'])]

def k8sToAPI : Table :=
  [(['M', 'i'], ['M', 'B']), (['G', 'i'], ['G', 'B']), (['T', 'i'], ['T', 'B'])]

def convertBytes (order : Table) (memoryStr : Text) : Except ConvertError Quantity :=
  convert order memoryStr

def bytesQuantityToAPI (string : Quantity → Text) (order : Table) (q : Quantity) : Text :=
  toAPI order (string q)

end Database

theorem cutSuffix_eq_some {s suffix n : Text} : cutSuffix s suffix = some n ↔ s = n ++ suffix := by
  unfold cutSuffix
  constructor
  · intro h
    rw [Option.ite_none_right_eq_some, Option.some.injEq, List.isSuffixOf_iff_suffix] at h
    obtain ⟨⟨t, rfl⟩, hn⟩ := h
    rw [List.length_append, Nat.add_sub_cancel, List.take_left] at hn
    rw [hn]
  · rintro rfl
    rw [if_pos (List.isSuffixOf_iff_suffix.mpr ⟨n, rfl⟩), List.length_append, Nat.add_sub_cancel,
      List.take_left]

/-- No suffix of the table ends in another, so the order of iteration does not matter. -/
def Exclusive (table : Table) : Prop := ∀ u ∈ table, ∀ v ∈ table, u.1 <:+ v.1 → u = v

instance (table : Table) : Decidable (Exclusive table) :=
  inferInstanceAs (Decidable (∀ u ∈ table, ∀ v ∈ table, u.1 <:+ v.1 → u = v))

theorem Exclusive.perm {table order : Table} (h : Exclusive table) (hp : order.Perm table) :
    Exclusive order :=
  fun u hu v hv => h u (hp.mem_iff.mp hu) v (hp.mem_iff.mp hv)

theorem replaceSuffix_eq_some {table : Table} (h : Exclusive table) {s t : Text} :
    replaceSuffix table s = some t ↔ ∃ n, ∃ u ∈ table, s = n ++ u.1 ∧ t = n ++ u.2 := by
  unfold replaceSuffix
  constructor
  · intro hfind
    obtain ⟨u, hu, hcut⟩ := List.exists_of_findSome?_eq_some hfind
    obtain ⟨n, hn, rfl⟩ := Option.map_eq_some_iff.mp hcut
    exact ⟨n, u, hu, cutSuffix_eq_some.mp hn, rfl⟩
  · rintro ⟨n, u, hu, rfl, rfl⟩
    cases hfind : table.findSome? fun v => (cutSuffix (n ++ u.1) v.1).map (· ++ v.2) with
    | none =>
      have hnone := List.findSome?_eq_none_iff.mp hfind u hu
      rw [cutSuffix_eq_some.mpr rfl] at hnone
      cases hnone
    | some t =>
      obtain ⟨v, hv, hcut⟩ := List.exists_of_findSome?_eq_some hfind
      obtain ⟨n', hn', rfl⟩ := Option.map_eq_some_iff.mp hcut
      have hends := cutSuffix_eq_some.mp hn'
      have heq : u = v := by
        rcases List.suffix_or_suffix_of_suffix (List.suffix_append n u.1) ⟨n', hends.symm⟩ with
          hsuffix | hsuffix
        · exact h u hu v hv hsuffix
        · exact (h v hv u hu hsuffix).symm
      subst heq
      rw [List.append_cancel_right hends]

structure Units (table : Table) : Prop where
  exclusive : Exclusive table
  letters : ∀ u ∈ table, 'B' ∈ u.1 ∧ 'i' ∈ u.2
  inverse : ∀ u ∈ Container.k8sToAPI, (u.2, u.1) ∈ table

theorem Units.perm {table order : Table} (h : Units table) (hp : order.Perm table) :
    Units order where
  exclusive := h.exclusive.perm hp
  letters u hu := h.letters u (hp.mem_iff.mp hu)
  inverse u hu := hp.mem_iff.mpr (h.inverse u hu)

theorem container_units : Units Container.apiToK8s := ⟨by decide, by decide, by decide⟩

theorem database_units : Units Database.apiToK8s := ⟨by decide, by decide, by decide⟩

/-- A whole number of megabytes, and not one of petabytes. -/
def Printable (q : Quantity) : Prop :=
  ∃ n : ℤ, q.nanos = n * 10 ^ 9 ∧ 2 ^ 20 ∣ n ∧ ¬ 2 ^ 50 ∣ n

section

variable {q : Quantity}

theorem shownFormat_of_printable (h : Printable q)
    (hformat : q.format = .binarySI ∨ q.nanos.natAbs < 10 ^ 9) : shownFormat q = .binarySI := by
  obtain ⟨n, hn, hmega, hpeta⟩ := h
  have hlarge : 2 ^ 20 ≤ n.natAbs := by
    have hzero : n ≠ 0 := by
      rintro rfl
      exact hpeta (Int.dvd_zero _)
    omega
  apply shownFormat_binarySI
  · exact hformat.resolve_right (by omega)
  · omega
  · omega

theorem ends_of_printable (h : Printable q) (hrange : InRange q)
    (hf : shownFormat q = .binarySI) :
    ∃ n, ∃ u ∈ Container.k8sToAPI, canonicalize q = n ++ u.1 := by
  obtain ⟨n, hn, hmega, hpeta⟩ := h
  obtain ⟨m, k, htext, hnumber, hrest, hk⟩ := canonicalize_binary hf hrange
  have hproduct : m * (1024 ^ k : ℕ) = n := by
    rw [hn] at hnumber
    exact Int.eq_of_mul_eq_mul_right (by norm_num) hnumber
  rw [htext]
  subst hproduct
  interval_cases k <;> norm_num at hmega hpeta
  · omega
  · omega
  · exact ⟨intText m, (['M', 'i'], ['M', 'B']), by decide, rfl⟩
  · exact ⟨intText m, (['G', 'i'], ['G', 'B']), by decide, rfl⟩
  · exact ⟨intText m, (['T', 'i'], ['T', 'B']), by decide, rfl⟩
  · omega

theorem exponent_of_ends {m : ℤ} {k : ℕ} {n : Text} {u : Text × Text} (hk : k ≤ 6)
    (hu : u ∈ Container.k8sToAPI)
    (hends : intText m ++ (construct .binarySI (k * 10)).getD [] = n ++ u.1) : 2 ≤ k ∧ k ≤ 4 := by
  have hi : 'i' ∈ u.1 ∧ u.1.length = 2 ∧ u.1 ∈ [['M', 'i'], ['G', 'i'], ['T', 'i']] :=
    (by decide : ∀ u ∈ Container.k8sToAPI, 'i' ∈ u.1 ∧ u.1.length = 2 ∧
      u.1 ∈ [['M', 'i'], ['G', 'i'], ['T', 'i']]) u hu
  by_contra hout
  have hcases : k = 0 ∨ k = 1 ∨ k = 5 ∨ k = 6 := by omega
  have hother : ∀ suffix : Text, suffix.length = 2 → suffix ∉ [['M', 'i'], ['G', 'i'], ['T', 'i']] →
      intText m ++ suffix ≠ n ++ u.1 := by
    intro suffix hlength hnot heq
    have hsame := List.append_inj_right' heq (by rw [hlength, hi.2.1])
    exact hnot (hsame ▸ hi.2.2)
  rcases hcases with rfl | rfl | rfl | rfl
  · -- a number alone has no letter
    have hmem : 'i' ∈ intText m := by
      rw [show (construct .binarySI (((0 : ℕ) : ℤ) * 10)).getD [] = [] from rfl,
        List.append_nil] at hends
      exact hends ▸ List.mem_append_right n hi.1
    rcases mem_intText hmem with h | h <;> exact absurd h (by decide)
  · exact hother ['K', 'i'] rfl (by decide) hends
  · exact hother ['P', 'i'] rfl (by decide) hends
  · exact hother ['E', 'i'] rfl (by decide) hends

theorem printable_of_ends (hrange : InRange q) {n : Text} {u : Text × Text}
    (hu : u ∈ Container.k8sToAPI) (hends : canonicalize q = n ++ u.1) : Printable q := by
  have hi : 'i' ∈ canonicalize q := by
    rw [hends]
    exact List.mem_append_right n
      ((by decide : ∀ u ∈ Container.k8sToAPI, 'i' ∈ u.1) u hu)
  have hf : shownFormat q = .binarySI := by
    by_contra hf
    exact (mem_canonicalize hi).2 hf rfl
  obtain ⟨m, k, htext, hnumber, hrest, hk⟩ := canonicalize_binary hf hrange
  rw [htext] at hends
  obtain ⟨hlo, hhi⟩ := exponent_of_ends hk hu hends
  refine ⟨m * (1024 ^ k : ℕ), hnumber.symm, ?_, ?_⟩
  · interval_cases k <;> norm_num <;> omega
  · interval_cases k <;> norm_num <;> omega

theorem round_trip_iff {table table' back : Table} (h : Units table) (h' : Units table')
    (hback : back.Perm Container.k8sToAPI) {s : Text} (hq : convert table s = .ok q) :
    (∃ q', convert table' (toAPI back (canonicalize q)) = .ok q' ∧ q'.nanos = q.nanos) ↔
      Printable q := by
  have hexclusive : Exclusive back := Exclusive.perm (by decide) hback
  obtain ⟨text, htext, hparse⟩ : ∃ text, replaceSuffix table s = some text ∧
      parseQuantity text = .ok q := by
    unfold convert at hq
    split at hq
    · cases hq
    · split at hq <;> cases hq
      exact ⟨_, by assumption, by assumption⟩
  have hrange := inRange_of_parseQuantity hparse
  have hformat : q.format = .binarySI ∨ q.nanos.natAbs < 10 ^ 9 := by
    obtain ⟨n, u, hu, _, rfl⟩ := (replaceSuffix_eq_some h.exclusive).mp htext
    exact format_of_parseQuantity hparse (List.mem_append_right n (h.letters u hu).2)
  constructor
  · rintro ⟨q', hq', _⟩
    cases hreplace : replaceSuffix back (canonicalize q) with
    | none =>
      -- without a unit of the API the text is refused
      rw [toAPI, hreplace, Option.getD_none, convert] at hq'
      split at hq'
      · cases hq'
      · rename_i hfound
        obtain ⟨n, u, hu, htext', _⟩ := (replaceSuffix_eq_some h'.exclusive).mp hfound
        have hB : 'B' ∈ canonicalize q := by
          rw [htext']
          exact List.mem_append_right n (h'.letters u hu).1
        exact absurd rfl (mem_canonicalize hB).1
    | some t =>
      obtain ⟨n, u, hu, hends, _⟩ := (replaceSuffix_eq_some hexclusive).mp hreplace
      exact printable_of_ends hrange (hback.mem_iff.mp hu) hends
  · intro hprintable
    have hf := shownFormat_of_printable hprintable hformat
    obtain ⟨n, u, hu, hends⟩ := ends_of_printable hprintable hrange hf
    obtain ⟨q', hq', hvalue⟩ := parseQuantity_canonicalize_binary hf hrange
    refine ⟨q', ?_, hvalue⟩
    have hforth : replaceSuffix back (canonicalize q) = some (n ++ u.2) :=
      (replaceSuffix_eq_some hexclusive).mpr ⟨n, u, hback.mem_iff.mpr hu, hends, rfl⟩
    have hagain : replaceSuffix table' (n ++ u.2) = some (canonicalize q) :=
      (replaceSuffix_eq_some h'.exclusive).mpr ⟨n, (u.2, u.1), h'.inverse u hu, rfl, hends⟩
    rw [toAPI, hforth, Option.getD_some, convert, hagain]
    dsimp only
    rw [hq']

/-- `accept` reads back what `printed` shows of each size it has accepted, for the printable
sizes and for no others. -/
def ReadsBackPrintable (apiToK8s k8sToAPI : Table)
    (accept : Table → Text → Except ConvertError Quantity)
    (printed : Table → Quantity → Text) : Prop :=
  ∀ order order' back, order.Perm apiToK8s → order'.Perm apiToK8s → back.Perm k8sToAPI →
    ∀ s q, accept order s = .ok q →
      ((∃ q', accept order' (printed back q) = .ok q' ∧ q'.nanos = q.nanos) ↔ Printable q)

end

end MemorySizes
