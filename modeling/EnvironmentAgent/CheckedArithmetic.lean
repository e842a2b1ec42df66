import Mathlib.Algebra.Ring.Int.Defs

/-! # Arithmetic of 64-bit integers that notices overflow

An operation gives its exact result, or nothing where that is no 64-bit integer. -/
namespace CheckedArithmetic

def InRange (n : ℤ) : Prop := -2 ^ 63 ≤ n ∧ n < 2 ^ 63

instance (n : ℤ) : Decidable (InRange n) := inferInstanceAs (Decidable (_ ∧ _))

def ofInt? (n : ℤ) : Option Int64 := if InRange n then some (Int64.ofInt n) else none

def add (a b : Int64) : Option Int64 := ofInt? (a.toInt + b.toInt)

def mul (a b : Int64) : Option Int64 := ofInt? (a.toInt * b.toInt)

def quo (a b : Int64) : Option Int64 := ofInt? (a.toInt.tdiv b.toInt)

theorem ofInt?_eq_some_iff {n : ℤ} {a : Int64} : ofInt? n = some a ↔ a.toInt = n := by
  unfold ofInt?
  constructor
  · intro h
    rw [Option.ite_none_right_eq_some] at h
    obtain ⟨hrange, h⟩ := h
    rw [← Option.some.inj h, Int64.toInt_ofInt_of_le hrange.1 hrange.2]
  · rintro rfl
    rw [if_pos ⟨a.le_toInt, a.toInt_lt⟩, Int64.ofInt_toInt]

variable {a b : Int64}

theorem toInt_mul_of_inRange (h : InRange (a.toInt * b.toInt)) :
    (a * b).toInt = a.toInt * b.toInt := by
  obtain ⟨hlo, hhi⟩ := h
  rw [Int64.toInt_mul]
  exact Int.bmod_eq_of_le (by omega) (by omega)

theorem mul_of_inRange (h : InRange (a.toInt * b.toInt)) : mul a b = some (a * b) :=
  ofInt?_eq_some_iff.mpr (toInt_mul_of_inRange h)

theorem add_of_inRange (h : InRange (a.toInt + b.toInt)) : add a b = some (a + b) := by
  obtain ⟨hlo, hhi⟩ := h
  apply ofInt?_eq_some_iff.mpr
  rw [Int64.toInt_add]
  exact Int.bmod_eq_of_le (by omega) (by omega)

theorem quo_of_ne (h : b ≠ -1) : quo a b = some (a / b) :=
  ofInt?_eq_some_iff.mpr (a.toInt_div_of_ne_right b h)

end CheckedArithmetic
