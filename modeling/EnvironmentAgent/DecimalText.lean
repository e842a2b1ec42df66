import Mathlib

/-! # Whole numbers as texts

A text is a list of characters. A number is written with the digits it needs; what is read may
have a sign and any number of leading zeros. -/
namespace DecimalText

abbrev Text := List Char

def natOf (ds : Text) : ℕ := Nat.ofDigitChars 10 ds 0

def natText (n : ℕ) : Text := Nat.toDigits 10 n

def intText (n : ℤ) : Text := if n < 0 then '-' :: natText n.natAbs else natText n.natAbs

def signed (positive : Bool) (n : ℕ) : ℤ := if positive then n else -n

def splitSign : Text → Bool × Text
  | '-' :: t => (false, t)
  | '+' :: t => (true, t)
  | t => (true, t)

def IsNumber (ds : Text) : Prop := ds ≠ [] ∧ ds.all Char.isDigit = true

instance (ds : Text) : Decidable (IsNumber ds) := inferInstanceAs (Decidable (_ ∧ _))

/-- `strconv.ParseInt(s, 10, 64)`; no error is told from another. -/
def parseInt (t : Text) : Option ℤ :=
  let (positive, ds) := splitSign t
  if IsNumber ds ∧ -2 ^ 63 ≤ signed positive (natOf ds) ∧ signed positive (natOf ds) < 2 ^ 63 then
    some (signed positive (natOf ds))
  else none

theorem isNumber_natText (n : ℕ) : IsNumber (natText n) :=
  ⟨Nat.toDigits_ne_nil, List.all_eq_true.mpr fun _ hc =>
    Nat.isDigit_of_mem_toDigits (by omega) (by omega) hc⟩

@[simp] theorem natOf_natText (n : ℕ) : natOf (natText n) = n :=
  Nat.ofDigitChars_toDigits (by omega) (by omega)

theorem natOf_dropWhile_zero (ds : Text) : natOf (ds.dropWhile (· == '0')) = natOf ds := by
  induction ds with
  | nil => rfl
  | cons c ds ih =>
    by_cases hc : c = '0'
    · subst hc
      exact ih
    · rw [List.dropWhile_cons, if_neg (by simpa using hc)]

theorem natOf_zeros {ds : Text} (h : ds.dropWhile (· == '0') = []) : natOf ds = 0 := by
  rw [← natOf_dropWhile_zero, h]
  rfl

theorem not_sign_of_isDigit {c : Char} (h : c.isDigit = true) : c ≠ '-' ∧ c ≠ '+' ∧ c ≠ '.' := by
  refine ⟨?_, ?_, ?_⟩ <;> rintro rfl <;> exact absurd h (by decide)

@[simp] theorem natAbs_signed (positive : Bool) (n : ℕ) : (signed positive n).natAbs = n := by
  cases positive <;> simp [signed]

@[simp] theorem signed_zero (positive : Bool) : signed positive 0 = 0 := by
  cases positive <;> rfl

theorem signed_mul (positive : Bool) (n m : ℕ) :
    signed positive (n * m) = signed positive n * m := by
  cases positive <;> simp [signed]

theorem signed_natAbs (n : ℤ) : signed (decide (0 ≤ n)) n.natAbs = n := by
  unfold signed
  by_cases h : 0 ≤ n
  · rw [if_pos (by simpa using h)]
    omega
  · rw [if_neg (by simpa using h)]
    omega

theorem splitSign_eq {t rest : Text} {positive : Bool} (h : splitSign t = (positive, rest)) :
    ∃ sign, t = sign ++ rest := by
  unfold splitSign at h
  split at h <;> cases h
  · exact ⟨['-'], rfl⟩
  · exact ⟨['+'], rfl⟩
  · exact ⟨[], rfl⟩

theorem splitSign_digits {ds : Text} (h : IsNumber ds) (rest : Text) :
    splitSign (ds ++ rest) = (true, ds ++ rest) := by
  obtain ⟨hne, hall⟩ := h
  cases ds with
  | nil => exact absurd rfl hne
  | cons c ds =>
    obtain ⟨hminus, hplus, _⟩ := not_sign_of_isDigit (List.all_eq_true.mp hall c List.mem_cons_self)
    unfold splitSign
    split
    · rename_i heq
      exact absurd (List.head_eq_of_cons_eq heq) hminus
    · rename_i heq
      exact absurd (List.head_eq_of_cons_eq heq) hplus
    · rfl

theorem splitSign_intText (n : ℤ) (rest : Text) :
    splitSign (intText n ++ rest) = (decide (0 ≤ n), natText n.natAbs ++ rest) := by
  unfold intText
  by_cases h : n < 0
  · rw [if_pos h, decide_eq_false (by omega)]
    rfl
  · rw [if_neg h, decide_eq_true (by omega)]
    exact splitSign_digits (isNumber_natText _) rest

theorem mem_intText {n : ℤ} {c : Char} (h : c ∈ intText n) : c = '-' ∨ c.isDigit = true := by
  have hdigits := List.all_eq_true.mp (isNumber_natText n.natAbs).2
  unfold intText at h
  split at h
  · exact (List.mem_cons.mp h).imp_right (hdigits c)
  · exact Or.inr (hdigits c h)

theorem intText_ne_nil (n : ℤ) : intText n ≠ [] := by
  unfold intText
  split
  · exact List.cons_ne_nil _ _
  · exact (isNumber_natText n.natAbs).1

theorem parseInt_intText {n : ℤ} (hlo : -2 ^ 63 ≤ n) (hhi : n < 2 ^ 63) :
    parseInt (intText n) = some n := by
  have hsplit := splitSign_intText n []
  rw [List.append_nil, List.append_nil] at hsplit
  have hvalue : signed (decide (0 ≤ n)) (natOf (natText n.natAbs)) = n := by
    rw [natOf_natText, signed_natAbs]
  simp only [parseInt, hsplit, hvalue]
  exact if_pos ⟨isNumber_natText _, hlo, hhi⟩

theorem parseInt_eq_some {t : Text} {n : ℤ} (h : parseInt t = some n) :
    IsNumber (splitSign t).2 ∧ n = signed (splitSign t).1 (natOf (splitSign t).2) ∧
      -2 ^ 63 ≤ n ∧ n < 2 ^ 63 := by
  simp only [parseInt] at h
  split at h
  · rename_i hcond
    cases h
    exact ⟨hcond.1, rfl, hcond.2⟩
  · cases h

end DecimalText
