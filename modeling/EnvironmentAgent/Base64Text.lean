import Mathlib

/-! # Base64

Bytes as symbols of six bits each. Three bytes make four symbols, and a group that is not full is
padded. -/
namespace Base64Text

abbrev Bytes := List UInt8

def alphabet : Bytes :=
  (List.range' 65 26 ++ List.range' 97 26 ++ List.range' 48 10 ++ [43, 47]).map UInt8.ofNat

def pad : UInt8 := 61

def symbol (n : ℕ) : UInt8 := alphabet.getD (n % 64) 0

def value (b : UInt8) : Option ℕ := alphabet.idxOf? b

def group (a b c : UInt8) : ℕ := a.toNat * 2 ^ 16 + b.toNat * 2 ^ 8 + c.toNat

def encode : Bytes → Bytes
  | [] => []
  | [a] => [symbol (group a 0 0 / 2 ^ 18), symbol (group a 0 0 / 2 ^ 12), pad, pad]
  | [a, b] =>
    [symbol (group a b 0 / 2 ^ 18), symbol (group a b 0 / 2 ^ 12), symbol (group a b 0 / 2 ^ 6),
      pad]
  | a :: b :: c :: rest =>
    symbol (group a b c / 2 ^ 18) :: symbol (group a b c / 2 ^ 12) ::
      symbol (group a b c / 2 ^ 6) :: symbol (group a b c) :: encode rest

def first (n : ℕ) : UInt8 := UInt8.ofNat (n / 2 ^ 16)

def second (n : ℕ) : UInt8 := UInt8.ofNat (n / 2 ^ 8)

def third (n : ℕ) : UInt8 := UInt8.ofNat n

def decodeQuanta : Bytes → Option Bytes
  | [] => some []
  | a :: b :: c :: d :: rest => do
    let x ← value a
    let y ← value b
    if c = pad then
      if d = pad ∧ rest = [] then some [first (x * 2 ^ 18 + y * 2 ^ 12)] else none
    else
      let z ← value c
      if d = pad then
        if rest = [] then
          some [first (x * 2 ^ 18 + y * 2 ^ 12 + z * 2 ^ 6),
            second (x * 2 ^ 18 + y * 2 ^ 12 + z * 2 ^ 6)]
        else none
      else
        let t ← value d
        let n := x * 2 ^ 18 + y * 2 ^ 12 + z * 2 ^ 6 + t
        let more ← decodeQuanta rest
        some (first n :: second n :: third n :: more)
  | _ => none

def newlines : Bytes := [10, 13]

def decode (text : Bytes) : Option Bytes := decodeQuanta (text.filter (· ∉ newlines))

theorem symbol_spec : ∀ n : Fin 64, value (symbol n) = some n.val ∧ symbol n ≠ pad ∧
    symbol n ∉ newlines := by
  decide +kernel

theorem symbol_mod (n : ℕ) : symbol (n % 64) = symbol n := by
  rw [symbol, symbol, Nat.mod_mod]

@[simp] theorem value_symbol (n : ℕ) : value (symbol n) = some (n % 64) := by
  rw [← symbol_mod]
  exact (symbol_spec ⟨n % 64, Nat.mod_lt _ (by omega)⟩).1

@[simp] theorem symbol_ne_pad (n : ℕ) : symbol n ≠ pad := by
  rw [← symbol_mod]
  exact (symbol_spec ⟨n % 64, Nat.mod_lt _ (by omega)⟩).2.1

theorem symbol_notMem_newlines (n : ℕ) : symbol n ∉ newlines := by
  rw [← symbol_mod]
  exact (symbol_spec ⟨n % 64, Nat.mod_lt _ (by omega)⟩).2.2

theorem first_group (a b c : UInt8) : first (group a b c) = a := by
  have hb := b.toNat_lt
  have hc := c.toNat_lt
  have hdiv : group a b c / 2 ^ 16 = a.toNat := by
    unfold group
    omega
  rw [first, hdiv, UInt8.ofNat_toNat]

theorem second_group (a b c : UInt8) : second (group a b c) = b := by
  have hc := c.toNat_lt
  have hdiv : group a b c / 2 ^ 8 = a.toNat * 2 ^ 8 + b.toNat := by
    unfold group
    omega
  apply UInt8.toNat_inj.mp
  rw [second, UInt8.toNat_ofNat']
  have hb := b.toNat_lt
  omega

theorem third_group (a b c : UInt8) : third (group a b c) = c := by
  apply UInt8.toNat_inj.mp
  rw [third, UInt8.toNat_ofNat', group]
  have hc := c.toNat_lt
  omega

theorem group_lt (a b c : UInt8) : group a b c < 2 ^ 24 := by
  have ha := a.toNat_lt
  have hb := b.toNat_lt
  have hc := c.toNat_lt
  unfold group
  omega

theorem sextets_group {n : ℕ} (h : n < 2 ^ 24) :
    n / 2 ^ 18 % 64 * 2 ^ 18 + n / 2 ^ 12 % 64 * 2 ^ 12 + n / 2 ^ 6 % 64 * 2 ^ 6 + n % 64 = n := by
  omega

theorem decodeQuanta_encode (bs : Bytes) : decodeQuanta (encode bs) = some bs := by
  fun_induction encode bs with
  | case1 => rfl
  | case2 a =>
    have hfull := sextets_group (group_lt a 0 0)
    have htail : group a 0 0 / 2 ^ 6 % 64 = 0 ∧ group a 0 0 % 64 = 0 := by
      simp only [group, UInt8.toNat_zero]
      omega
    rw [htail.1, htail.2, Nat.zero_mul, Nat.add_zero] at hfull
    simp only [decodeQuanta, value_symbol, Option.bind_eq_bind, Option.bind_some, and_self,
      if_true, hfull, first_group]
  | case3 a b =>
    have hfull := sextets_group (group_lt a b 0)
    have htail : group a b 0 % 64 = 0 := by
      simp only [group, UInt8.toNat_zero]
      omega
    rw [htail, Nat.add_zero] at hfull
    simp only [decodeQuanta, value_symbol, symbol_ne_pad, Option.bind_eq_bind, Option.bind_some,
      if_true, if_false, hfull, first_group, second_group]
  | case4 a b c rest ih =>
    have hfull := sextets_group (group_lt a b c)
    simp only [decodeQuanta, value_symbol, symbol_ne_pad, Option.bind_eq_bind, Option.bind_some,
      if_false, hfull, first_group, second_group, third_group, ih]

variable {bs : Bytes}

theorem mem_encode {b : UInt8} (h : b ∈ encode bs) : b = pad ∨ ∃ n, b = symbol n := by
  fun_induction encode bs with
  | case1 => cases h
  | case2 a =>
    simp only [List.mem_cons, List.not_mem_nil, or_false] at h
    rcases h with h | h | h | h
    · exact Or.inr ⟨_, h⟩
    · exact Or.inr ⟨_, h⟩
    · exact Or.inl h
    · exact Or.inl h
  | case3 a b =>
    simp only [List.mem_cons, List.not_mem_nil, or_false] at h
    rcases h with h | h | h | h
    · exact Or.inr ⟨_, h⟩
    · exact Or.inr ⟨_, h⟩
    · exact Or.inr ⟨_, h⟩
    · exact Or.inl h
  | case4 a b c rest ih =>
    simp only [List.mem_cons] at h
    rcases h with h | h | h | h | h
    · exact Or.inr ⟨_, h⟩
    · exact Or.inr ⟨_, h⟩
    · exact Or.inr ⟨_, h⟩
    · exact Or.inr ⟨_, h⟩
    · exact ih h

theorem notMem_newlines_of_mem_encode {b : UInt8} (h : b ∈ encode bs) :
    b ∉ newlines := by
  rcases mem_encode h with hb | ⟨n, hb⟩
  · rw [hb]
    decide
  · rw [hb]
    exact symbol_notMem_newlines n

theorem decode_encode (bs : Bytes) : decode (encode bs) = some bs := by
  have hkeep : (encode bs).filter (· ∉ newlines) = encode bs := by
    apply List.filter_eq_self.mpr
    intro b hb
    exact decide_eq_true (notMem_newlines_of_mem_encode hb)
  rw [decode, hkeep, decodeQuanta_encode]

theorem encode_ne_nil (h : bs ≠ []) : encode bs ≠ [] := by
  intro hnil
  have hdecoded := decodeQuanta_encode bs
  rw [hnil] at hdecoded
  exact h (Option.some.inj hdecoded).symm

end Base64Text
