import EnvironmentAgent.CheckedArithmetic
import EnvironmentAgent.RetryAfter
import Mathlib.Algebra.Order.Ring.Int

/-! # Exponential backoff

`CalculateBackoff` once more, with the counter of its loop and with every operation checked for
overflow. -/
namespace Backoff

open CheckedArithmetic RetryAfter

def doubleFrom (max : Duration) (attempt i : Int64) (d : Duration) : Option Duration :=
  if _hloop : i < attempt ∧ d < max then
    (quo max 2).bind fun half =>
      if half < d then some max
      else
        (mul d 2).bind fun d =>
          match _hnext : add i 1 with
          | none => none
          | some next => doubleFrom max attempt next d
  else if max < d then some max
  else some d
termination_by (attempt.toInt - i.toInt).toNat
decreasing_by
  have hsum : next.toInt = i.toInt + (1 : Int64).toInt := ofInt?_eq_some_iff.mp _hnext
  have hone : (1 : Int64).toInt = 1 := rfl
  have hlt := Int64.lt_iff_toInt_lt.mp _hloop.1
  omega

def checkedBackoff (initial max : Duration) (attempt : Int64) : Option Duration :=
  if initial ≤ 0 then some max else doubleFrom max attempt 0 initial

variable {max d : Duration}

theorem half_lt_iff (hpos : 0 < d.toInt) (hlt : d < max) :
    max / 2 < d ↔ max.toInt < d.toInt * 2 := by
  have hlt := Int64.lt_iff_toInt_lt.mp hlt
  have htwo : (2 : Int64).toInt = 2 := rfl
  rw [Int64.lt_iff_toInt_lt, max.toInt_div_of_ne_right 2 (by decide), htwo,
    Int.tdiv_eq_ediv_of_nonneg (by omega)]
  omega

theorem double_inRange (hpos : 0 < d.toInt) (hle : ¬ max.toInt < d.toInt * 2) :
    InRange (d.toInt * (2 : Int64).toInt) := by
  have hmax := max.toInt_lt
  have htwo : (2 : Int64).toInt = 2 := rfl
  rw [htwo]
  exact ⟨by omega, by omega⟩

theorem toInt_double (hpos : 0 < d.toInt) (hle : ¬ max.toInt < d.toInt * 2) :
    (d * 2).toInt = d.toInt * 2 :=
  toInt_mul_of_inRange (double_inRange hpos hle)

theorem le_mul_two_pow {m : ℤ} (h : 0 < m) (n : ℕ) : m ≤ m * 2 ^ n :=
  le_mul_of_one_le_right h.le (one_le_pow₀ (by omega))

theorem mul_two_pow_succ (m : ℤ) (n : ℕ) : m * 2 ^ (n + 1) = m * 2 * 2 ^ n := by
  rw [Int.pow_succ', Int.mul_assoc]

theorem toInt_ended (hpos : 0 < d.toInt) {n : ℕ} (hend : n = 0 ∨ ¬ d < max) :
    (if max < d then max else d).toInt = min (d.toInt * 2 ^ n) max.toInt := by
  have hle := le_mul_two_pow hpos n
  rw [Int64.lt_iff_toInt_lt] at hend
  by_cases hlt : max < d
  · rw [if_pos hlt]
    rw [Int64.lt_iff_toInt_lt] at hlt
    omega
  · rw [if_neg hlt]
    rw [Int64.lt_iff_toInt_lt] at hlt
    rcases hend with rfl | hend
    · rw [Int.pow_zero, Int.mul_one]
      omega
    · omega

theorem toInt_doubleUpTo (hpos : 0 < d.toInt) (n : ℕ) :
    (doubleUpTo max n d).toInt = min (d.toInt * 2 ^ n) max.toInt := by
  induction n generalizing d with
  | zero => exact toInt_ended hpos (Or.inl rfl)
  | succ n ih =>
    unfold doubleUpTo
    by_cases hlt : d < max
    · rw [if_pos hlt]
      by_cases hhalf : max / 2 < d
      · have hle := le_mul_two_pow (m := d.toInt * 2) (by omega) n
        rw [if_pos hhalf, mul_two_pow_succ]
        rw [half_lt_iff hpos hlt] at hhalf
        omega
      · rw [if_neg hhalf, mul_two_pow_succ]
        rw [half_lt_iff hpos hlt] at hhalf
        have hdouble := toInt_double hpos hhalf
        rw [ih (by omega), hdouble]
    · rw [if_neg hlt]
      exact toInt_ended hpos (Or.inr hlt)

theorem add_one_of_lt {i attempt : Int64} (h : i < attempt) : add i 1 = some (i + 1) := by
  have hlt := Int64.lt_iff_toInt_lt.mp h
  have hlo := i.le_toInt
  have hhi := attempt.toInt_lt
  have hone : (1 : Int64).toInt = 1 := rfl
  apply add_of_inRange
  rw [hone]
  exact ⟨by omega, by omega⟩

theorem doubleFrom_eq {attempt i : Int64} (hpos : 0 < d.toInt) {n : ℕ}
    (hn : (attempt.toInt - i.toInt).toNat = n) :
    doubleFrom max attempt i d = some (doubleUpTo max n d) := by
  induction n generalizing i d with
  | zero =>
    have hend : ¬ i < attempt := by
      rw [Int64.lt_iff_toInt_lt]
      omega
    rw [doubleFrom, dif_neg fun h => hend h.1, doubleUpTo, apply_ite some]
  | succ n ih =>
    have hloop : i < attempt := by
      rw [Int64.lt_iff_toInt_lt]
      omega
    by_cases hlt : d < max
    · rw [doubleFrom, dif_pos ⟨hloop, hlt⟩, quo_of_ne (by decide), Option.bind_some, doubleUpTo,
        if_pos hlt]
      by_cases hhalf : max / 2 < d
      · rw [if_pos hhalf, if_pos hhalf]
      · rw [if_neg hhalf, if_neg hhalf]
        rw [half_lt_iff hpos hlt] at hhalf
        have hdouble := toInt_double hpos hhalf
        have hnext := add_one_of_lt hloop
        have hcount : (i + 1).toInt = i.toInt + 1 := ofInt?_eq_some_iff.mp hnext
        rw [mul_of_inRange (double_inRange hpos hhalf), Option.bind_some]
        split
        · rename_i hnone
          rw [hnext] at hnone
          cases hnone
        · rename_i next hsome
          obtain rfl := Option.some.inj (hnext.symm.trans hsome)
          exact ih (by omega) (by omega)
    · rw [doubleFrom, dif_neg fun h => hlt h.2, doubleUpTo, if_neg hlt, apply_ite some]

/-- No operation overflows, and the wait is the limit or the initial one doubled `attempt` times,
whichever is less; a limit that is not positive is less than any. -/
theorem backoff_closed_form (initial max : Duration) (attempt : Int64) :
    checkedBackoff initial max attempt = some (calculateBackoff initial max attempt.toInt) ∧
      (calculateBackoff initial max attempt.toInt).toInt =
        if initial ≤ 0 then max.toInt
        else min (initial.toInt * 2 ^ attempt.toInt.toNat) max.toInt := by
  have hzero : (0 : Int64).toInt = 0 := rfl
  unfold checkedBackoff calculateBackoff
  by_cases hinitial : initial ≤ 0
  · rw [if_pos hinitial, if_pos hinitial, if_pos hinitial]
    exact ⟨rfl, rfl⟩
  · have hpos : 0 < initial.toInt := by
      rw [Int64.le_iff_toInt_le] at hinitial
      omega
    rw [if_neg hinitial, if_neg hinitial, if_neg hinitial]
    exact ⟨doubleFrom_eq hpos (by rw [hzero, Int.sub_zero]), toInt_doubleUpTo hpos _⟩

end Backoff
