import EnvironmentAgent.DecimalText

/-! # Resource quantities

`resource.Quantity` of Kubernetes. An amount is a whole number of billionths, rounded up. A quantity
that was read with 64-bit arithmetic keeps its text and is printed as that; any other is printed
with the largest suffix that loses nothing. -/
namespace Quantities

open DecimalText

inductive Format where
  | unset
  | decimalExponent
  | binarySI
  | decimalSI
  deriving DecidableEq, Repr

/-- `text` is empty if the text is not kept. -/
structure Quantity where
  nanos : ℤ
  format : Format
  text : Text
  deriving DecidableEq, Repr

inductive ParseError where
  | formatWrong
  | numeric
  | suffix
  deriving DecidableEq, Repr

def ParseError.message : ParseError → String
  | .formatWrong => "quantities must match the regular expression " ++
      "'^([+-]?[0-9.]+)([eEinumkKMGTP]*[-+]?[0-9]*)$'"
  | .numeric => "unable to parse numeric part of quantity"
  | .suffix => "unable to parse quantity's suffix"

def int32 (n : ℤ) : ℤ := n.bmod (2 ^ 32)

variable {n : ℤ}

theorem int32_of_bounds (hlo : -2 ^ 31 ≤ n) (hhi : n < 2 ^ 31) : int32 n = n :=
  Int.bmod_eq_of_le (by norm_num; omega) (by norm_num; omega)

def decSuffixes : List (Text × ℤ) :=
  [(['n'], -9), (['u'], -6), (['m'], -3), ([], 0), (['k'], 3), (['M'], 6), (['G'], 9), (['T'], 12),
    (['P'], 15), (['E'], 18)]

def binSuffixes : List (Text × ℤ) :=
  [(['K', 'i'], 10), (['M', 'i'], 20), (['G', 'i'], 30), (['T', 'i'], 40), (['P', 'i'], 50),
    (['E', 'i'], 60)]

def interpret (suffix : Text) : Option (ℤ × Format) :=
  match decSuffixes.lookup suffix with
  | some exponent => some (exponent, .decimalSI)
  | none =>
    match binSuffixes.lookup suffix with
    | some exponent => some (exponent, .binarySI)
    | none =>
      match suffix with
      | 'e' :: t => (parseInt t).map fun exponent => (int32 exponent, .decimalExponent)
      | 'E' :: t => (parseInt t).map fun exponent => (int32 exponent, .decimalExponent)
      | _ => none

def construct (format : Format) (exponent : ℤ) : Option Text :=
  match format with
  | .decimalSI => (decSuffixes.find? (·.2 == exponent)).map (·.1)
  | .binarySI => (binSuffixes.find? (·.2 == exponent)).map (·.1)
  | .decimalExponent => some (if exponent = 0 then [] else 'e' :: intText exponent)
  | .unset => none

/-- `value` is the number as it is written; `num` and `denom` are its digits before and after the
point, without leading zeros. -/
structure Parts where
  positive : Bool
  value : Text
  num : Text
  denom : Text
  suffix : Text
  deriving DecidableEq, Repr

def isSuffixLetter (c : Char) : Bool :=
  c ∈ ['e', 'E', 'i', 'n', 'u', 'm', 'k', 'K', 'M', 'G', 'T', 'P']

def isSuffix (t : Text) : Bool :=
  (splitSign (t.dropWhile isSuffixLetter)).2.all Char.isDigit

def splitPoint : Text → Text × Text
  | '.' :: t => (t.takeWhile Char.isDigit, t.dropWhile Char.isDigit)
  | t => ([], t)

def parseQuantityString (str : Text) : Except ParseError Parts :=
  let (positive, t) := splitSign str
  let t := t.dropWhile (· == '0')
  if t = [] then .ok ⟨positive, ['0'], ['0'], [], []⟩
  else
    let num := t.takeWhile Char.isDigit
    let (denom, suffix) := splitPoint (t.dropWhile Char.isDigit)
    if isSuffix suffix then
      .ok ⟨positive, str.take (str.length - suffix.length), if num = [] then ['0'] else num, denom,
        suffix⟩
    else .error .formatWrong

def precision (p : Parts) (exponent : ℤ) : Format → ℤ
  | .binarySI => if p.denom = [] then 15 - p.num.length - exponent * 3 / 10 - 1 else -1
  | _ => 18 - (p.num.length + p.denom.length)

/-- `u · 10⁻ˢ` in billionths, rounded up. -/
def roundUp (u : ℕ) (s : ℤ) : ℕ :=
  if s ≤ 9 then u * 10 ^ (9 - s).toNat
  else (u + (10 ^ (s - 9).toNat - 1)) / 10 ^ (s - 9).toNat

def maxAllowed : ℕ := (2 ^ 63 - 1) * 10 ^ 9

def quickAmount (p : Parts) (exponent : ℤ) (format : Format) : Option ℕ :=
  let shifted := natOf (p.num ++ p.denom)
  let mantissa := if format = .binarySI then 2 ^ exponent.toNat else 1
  let scale := if format = .binarySI then 0 else int32 (exponent - p.denom.length)
  if 0 ≤ precision p exponent format ∧ -9 ≤ scale ∧ shifted * mantissa < 2 ^ 63 then
    some (shifted * mantissa * 10 ^ (scale + 9).toNat)
  else none

/-- The amount as decimals of any length give it; with a binary suffix it has a bound. -/
def exactAmount (p : Parts) (exponent : ℤ) (format : Format) : ℕ :=
  let shifted := natOf (p.num ++ p.denom)
  if format = .binarySI then min (roundUp (shifted * 2 ^ exponent.toNat) p.denom.length) maxAllowed
  else roundUp shifted (int32 (p.denom.length + int32 (-exponent)))

def ofParts (str : Text) (p : Parts) (exponent : ℤ) (format : Format) :
    Except ParseError Quantity :=
  match quickAmount p exponent format with
  | some amount => .ok ⟨signed p.positive amount, format, str⟩
  | none =>
    if p.value.any Char.isDigit then
      let amount := exactAmount p exponent format
      -- less than one is not shown with a binary suffix
      let format := if format = .binarySI ∧ 0 < amount ∧ amount < 10 ^ 9 then .decimalSI else format
      .ok ⟨signed p.positive amount, format, []⟩
    else .error .numeric

def parseQuantity (str : Text) : Except ParseError Quantity :=
  if str = [] then .error .formatWrong
  else if str = ['0'] then .ok ⟨0, .unset, str⟩
  else
    match parseQuantityString str with
    | .error e => .error e
    | .ok p =>
      match interpret p.suffix with
      | none => .error .suffix
      | some (exponent, format) => ofParts str p exponent format

def removeFactors (base : ℕ) : ℕ → ℕ → ℕ × ℕ
  | 0, n => (n, 0)
  | fuel + 1, n =>
    if n ≠ 0 ∧ n % base = 0 then (removeFactors base fuel (n / base)).map id (· + 1) else (n, 0)

/-- Digits and an exponent of ten that is a multiple of three, for an amount in billionths. -/
def asCanonical (n : ℕ) : ℕ × ℤ :=
  let (m, times) := removeFactors 10 n n
  let exponent := (times : ℤ) - 9
  let shift := exponent % 3
  (m * 10 ^ shift.toNat, exponent - shift)

/-- Digits and an exponent of 1024. The least integer of 64 bits has no negative, and its factors
stay where they are. -/
def asCanonicalBase1024 (n : ℤ) : ℤ × ℕ :=
  if n = -2 ^ 63 then (n, 0)
  else
    let (m, times) := removeFactors 1024 n.natAbs n.natAbs
    (signed (decide (0 ≤ n)) m, times)

/-- A binary suffix is not used below 1024, nor for an amount that is not whole. -/
def shownFormat (q : Quantity) : Format :=
  match q.format with
  | .unset => .decimalExponent
  | .decimalExponent => .decimalExponent
  | .decimalSI => .decimalSI
  | .binarySI =>
    if q.nanos.natAbs < 1024 * 10 ^ 9 then .decimalSI
    else if q.nanos.natAbs % 10 ^ 9 ≠ 0 then .decimalSI
    else .binarySI

def canonicalize (q : Quantity) : Text :=
  if q.nanos = 0 then ['0']
  else if shownFormat q = .binarySI then
    let (m, times) := asCanonicalBase1024 (q.nanos / 10 ^ 9)
    intText m ++ (construct .binarySI (times * 10)).getD []
  else
    let (m, exponent) := asCanonical q.nanos.natAbs
    intText (signed (decide (0 ≤ q.nanos)) m) ++
      (construct (shownFormat q) (int32 exponent)).getD []

def Quantity.string (q : Quantity) : Text := if q.text = [] then canonicalize q else q.text

def newQuantity (value : ℤ) (format : Format) : Quantity := ⟨value * 10 ^ 9, format, []⟩

structure Follows (suffix : Text) : Prop where
  valid : isSuffix suffix = true
  noDigit : suffix.takeWhile Char.isDigit = []
  noPoint : splitPoint suffix = ([], suffix)

instance (suffix : Text) : Decidable (Follows suffix) :=
  decidable_of_iff (isSuffix suffix = true ∧ suffix.takeWhile Char.isDigit = [] ∧
    splitPoint suffix = ([], suffix))
    ⟨fun h => ⟨h.1, h.2.1, h.2.2⟩, fun h => ⟨h.valid, h.noDigit, h.noPoint⟩⟩

theorem Follows.dropWhile_digit {suffix : Text} (h : Follows suffix) :
    suffix.dropWhile Char.isDigit = suffix := by
  have happend := List.takeWhile_append_dropWhile (p := Char.isDigit) (l := suffix)
  rwa [h.noDigit] at happend

theorem Follows.dropWhile_zero {suffix : Text} (h : Follows suffix) :
    suffix.dropWhile (· == '0') = suffix := by
  cases suffix with
  | nil => rfl
  | cons c t =>
    have hc : c.isDigit = false := by
      by_contra hdigit
      have hhead := h.noDigit
      rw [List.takeWhile_cons, if_pos (by simpa using hdigit)] at hhead
      cases hhead
    rw [List.dropWhile_cons, if_neg]
    rintro hzero
    rw [beq_iff_eq.mp hzero] at hc
    exact absurd hc (by decide)

variable {str ds suffix : Text} {positive : Bool}

theorem takeWhile_digits (hds : ds.all Char.isDigit = true) (hs : Follows suffix) :
    (ds ++ suffix).takeWhile Char.isDigit = ds := by
  rw [List.takeWhile_append_of_pos (List.all_eq_true.mp hds), hs.noDigit, List.append_nil]

theorem dropWhile_digits (hds : ds.all Char.isDigit = true) (hs : Follows suffix) :
    (ds ++ suffix).dropWhile Char.isDigit = suffix := by
  rw [List.dropWhile_append_of_pos (List.all_eq_true.mp hds), hs.dropWhile_digit]

theorem dropWhile_zeros (hs : Follows suffix) :
    (ds ++ suffix).dropWhile (· == '0') = ds.dropWhile (· == '0') ++ suffix := by
  rw [List.dropWhile_append]
  split
  · rename_i hempty
    rw [List.isEmpty_iff.mp hempty, hs.dropWhile_zero, List.nil_append]
  · rfl

structure Whole (positive : Bool) (ds suffix : Text) (p : Parts) : Prop where
  positive : p.positive = positive
  written : p.value.any Char.isDigit = true
  num : natOf p.num = natOf ds
  denom : p.denom = []
  suffix : p.suffix = suffix

theorem parseQuantityString_whole (hsign : splitSign str = (positive, ds ++ suffix))
    (hds : IsNumber ds) (hs : Follows suffix) :
    ∃ p, parseQuantityString str = .ok p ∧ Whole positive ds suffix p := by
  have hall : (ds.dropWhile (· == '0')).all Char.isDigit = true :=
    List.all_eq_true.mpr fun c hc =>
      List.all_eq_true.mp hds.2 c (List.dropWhile_sublist _ |>.subset hc)
  simp only [parseQuantityString, hsign, dropWhile_zeros hs]
  split
  · rename_i hnil
    obtain ⟨hzeros, rfl⟩ := List.append_eq_nil_iff.mp hnil
    exact ⟨_, rfl, rfl, rfl, by rw [natOf_zeros hzeros]; rfl, rfl, rfl⟩
  · rw [takeWhile_digits hall hs, dropWhile_digits hall hs, hs.noPoint, if_pos hs.valid]
    refine ⟨_, rfl, rfl, ?_, ?_, rfl, rfl⟩
    · obtain ⟨sign, rfl⟩ := splitSign_eq hsign
      have htake : (sign ++ (ds ++ suffix)).take ((sign ++ (ds ++ suffix)).length - suffix.length) =
          sign ++ ds := by
        have hlength : (sign ++ ds ++ suffix).length = (sign ++ ds).length + suffix.length :=
          List.length_append
        rw [← List.append_assoc, hlength, Nat.add_sub_cancel, List.take_left]
      obtain ⟨c, hc⟩ := List.exists_mem_of_ne_nil ds hds.1
      rw [htake, List.any_eq_true]
      exact ⟨c, List.mem_append_right sign hc, List.all_eq_true.mp hds.2 c hc⟩
    · dsimp only
      split
      · rename_i hzeros
        rw [natOf_zeros hzeros]
        rfl
      · exact natOf_dropWhile_zero ds

def amountOf (format : Format) (exponent : ℤ) (n : ℕ) : ℕ :=
  if format = .binarySI then min (n * 2 ^ exponent.toNat * 10 ^ 9) maxAllowed
  else n * 10 ^ (exponent + 9).toNat

@[simp] theorem amountOf_zero (format : Format) (exponent : ℤ) :
    amountOf format exponent 0 = 0 := by
  unfold amountOf
  split <;> simp

section

variable {p : Parts} {exponent : ℤ} {format : Format} {amount : ℕ}

theorem Whole.shifted (h : Whole positive ds suffix p) : natOf (p.num ++ p.denom) = natOf ds := by
  rw [h.denom, List.append_nil, h.num]

theorem Whole.places (h : Whole positive ds suffix p) : ((p.denom.length : ℕ) : ℤ) = 0 := by
  rw [h.denom]
  rfl

theorem quickAmount_whole (h : Whole positive ds suffix p)
    (hexp : format = .binarySI ∨ -9 ≤ exponent ∧ exponent < 2 ^ 31)
    (hquick : quickAmount p exponent format = some amount) :
    amount = amountOf format exponent (natOf ds) := by
  simp only [quickAmount, h.shifted, h.places, Int.sub_zero] at hquick
  rw [Option.ite_none_right_eq_some, Option.some.injEq] at hquick
  obtain ⟨hcond, rfl⟩ := hquick
  by_cases hbinary : format = .binarySI
  · have hle : natOf ds * 2 ^ exponent.toNat * 10 ^ 9 ≤ maxAllowed := by
      have hfits := hcond.2.2
      rw [if_pos hbinary] at hfits
      exact Nat.mul_le_mul_right _ (Nat.le_sub_one_of_lt hfits)
    have hscale : ((0 : ℤ) + 9).toNat = 9 := rfl
    rw [amountOf, if_pos hbinary, if_pos hbinary, if_pos hbinary, Nat.min_eq_left hle, hscale]
  · obtain ⟨hlo, hhi⟩ := hexp.resolve_left hbinary
    rw [amountOf, if_neg hbinary, if_neg hbinary, if_neg hbinary, Nat.mul_one,
      int32_of_bounds (by omega) hhi]

theorem exactAmount_whole (h : Whole positive ds suffix p)
    (hexp : format = .binarySI ∨ -9 ≤ exponent ∧ exponent < 2 ^ 31) :
    exactAmount p exponent format = amountOf format exponent (natOf ds) := by
  by_cases hbinary : format = .binarySI
  · have hscale : ((9 : ℤ) - 0).toNat = 9 := rfl
    rw [exactAmount, amountOf, if_pos hbinary, if_pos hbinary, h.shifted, h.places, roundUp,
      if_pos (by omega), hscale]
  · obtain ⟨hlo, hhi⟩ := hexp.resolve_left hbinary
    have hscale : int32 (p.denom.length + int32 (-exponent)) = -exponent := by
      rw [h.places, Int.zero_add, int32_of_bounds (n := -exponent) (by omega) (by omega)]
      exact int32_of_bounds (by omega) (by omega)
    have hpower : 9 - -exponent = exponent + 9 := by omega
    rw [exactAmount, amountOf, if_neg hbinary, if_neg hbinary, h.shifted, hscale, roundUp,
      if_pos (by omega), hpower]

theorem ofParts_whole (h : Whole positive ds suffix p) :
    ∃ q, ofParts str p exponent format = .ok q ∧
      ((format = .binarySI ∨ -9 ≤ exponent ∧ exponent < 2 ^ 31) →
        q.nanos = signed positive (amountOf format exponent (natOf ds))) := by
  unfold ofParts
  cases hquick : quickAmount p exponent format with
  | some amount =>
    refine ⟨_, rfl, fun hexp => ?_⟩
    rw [h.positive, quickAmount_whole h hexp hquick]
  | none =>
    refine ⟨_, if_pos h.written, fun hexp => ?_⟩
    rw [h.positive, exactAmount_whole h hexp]

theorem parseQuantity_whole (hsign : splitSign str = (positive, ds ++ suffix)) (hds : IsNumber ds)
    (hs : Follows suffix) (hinterpret : interpret suffix = some (exponent, format)) :
    ∃ q, parseQuantity str = .ok q ∧
      ((format = .binarySI ∨ -9 ≤ exponent ∧ exponent < 2 ^ 31) →
        q.nanos = signed positive (amountOf format exponent (natOf ds))) := by
  obtain ⟨p, hparts, hwhole⟩ := parseQuantityString_whole hsign hds hs
  obtain ⟨sign, hstr⟩ := splitSign_eq hsign
  have hne : str ≠ [] := by
    rw [hstr]
    simp [hds.1]
  rw [parseQuantity, if_neg hne]
  split
  · -- the text "0" is not split, and stands for nothing in every format
    rename_i hzero
    rw [hzero] at hsign
    obtain ⟨rfl, hsplit⟩ := Prod.mk.inj hsign
    have hdigits : natOf ds = 0 := by
      cases ds with
      | nil => exact absurd rfl hds.1
      | cons c ds =>
        obtain ⟨rfl, hrest⟩ := List.cons.inj hsplit
        rw [(List.append_eq_nil_iff.mp hrest.symm).1]
        rfl
    exact ⟨_, rfl, fun _ => by rw [hdigits, amountOf_zero, signed_zero]⟩
  · rw [hparts]
    dsimp only
    rw [hwhole.suffix, hinterpret]
    exact ofParts_whole hwhole

end

theorem removeFactors_spec {base : ℕ} (hbase : 1 < base) (fuel n : ℕ) (hn : n ≠ 0)
    (hfuel : n ≤ fuel) :
    (removeFactors base fuel n).1 * base ^ (removeFactors base fuel n).2 = n ∧
      ¬ base ∣ (removeFactors base fuel n).1 := by
  induction fuel generalizing n with
  | zero => omega
  | succ fuel ih =>
    unfold removeFactors
    split
    · rename_i hdvd
      have hsmaller : n / base < n := Nat.div_lt_self (Nat.pos_of_ne_zero hn) hbase
      have hpos : n / base ≠ 0 := by
        intro hzero
        have := Nat.div_add_mod n base
        rw [hzero] at this
        omega
      obtain ⟨hdiv, hrest⟩ := ih (n / base) hpos (by omega)
      refine ⟨?_, hrest⟩
      dsimp only [Prod.map_fst, Prod.map_snd, id_eq]
      rw [Nat.pow_succ, ← Nat.mul_assoc, hdiv, Nat.div_mul_cancel (Nat.dvd_of_mod_eq_zero hdvd.2)]
    · rename_i hndvd
      exact ⟨by simp, fun hdvd => hndvd ⟨hn, Nat.mod_eq_zero_of_dvd hdvd⟩⟩

theorem asCanonical_spec {n : ℕ} (hn : n ≠ 0) :
    (asCanonical n).1 * 10 ^ ((asCanonical n).2 + 9).toNat = n ∧ -9 ≤ (asCanonical n).2 ∧
      (asCanonical n).2 % 3 = 0 := by
  have hspec := (removeFactors_spec (show 1 < 10 by omega) n n hn le_rfl).1
  set r := removeFactors 10 n n with hr
  have hcanon : asCanonical n =
      (r.1 * 10 ^ (((r.2 : ℤ) - 9) % 3).toNat, (r.2 : ℤ) - 9 - ((r.2 : ℤ) - 9) % 3) := rfl
  rw [hcanon]
  refine ⟨?_, by omega, by omega⟩
  rw [Nat.mul_assoc, ← Nat.pow_add]
  have hexp : (((r.2 : ℤ) - 9) % 3).toNat + ((r.2 : ℤ) - 9 - ((r.2 : ℤ) - 9) % 3 + 9).toNat =
      r.2 := by
    omega
  rw [hexp, hspec]

structure Denotes (suffix : Text) (exponent : ℤ) (format : Format) : Prop where
  follows : Follows suffix
  interpret : interpret suffix = some (exponent, format)

theorem denotes_nil : Denotes [] 0 .decimalSI := ⟨by decide, by decide⟩

theorem isSuffixLetter_of_isDigit {c : Char} (h : c.isDigit = true) : isSuffixLetter c = false := by
  simp only [isSuffixLetter, decide_eq_false_iff_not]
  intro hmem
  simp only [List.mem_cons, List.not_mem_nil, or_false] at hmem
  rcases hmem with rfl | rfl | rfl | rfl | rfl | rfl | rfl | rfl | rfl | rfl | rfl | rfl <;>
    exact absurd h (by decide)

variable {e : ℤ}

theorem denotes_exponent (hlo : -2 ^ 31 ≤ e) (hhi : e < 2 ^ 31) :
    Denotes ('e' :: intText e) e .decimalExponent := by
  have hletters : ('e' :: intText e).dropWhile isSuffixLetter = intText e := by
    obtain ⟨c, t, hct⟩ := List.exists_cons_of_ne_nil (intText_ne_nil e)
    have hfirst : isSuffixLetter c = false := by
      rcases mem_intText (hct ▸ List.mem_cons_self) with rfl | hc
      · rfl
      · exact isSuffixLetter_of_isDigit hc
    rw [hct, List.dropWhile_cons, if_pos (by decide), List.dropWhile_cons,
      if_neg (by simp [hfirst])]
  have hsplit := splitSign_intText e []
  rw [List.append_nil, List.append_nil] at hsplit
  refine ⟨⟨?_, rfl, rfl⟩, ?_⟩
  · rw [isSuffix, hletters, hsplit]
    exact (isNumber_natText _).2
  · have hdec : decSuffixes.lookup ('e' :: intText e) = none := by simp [decSuffixes, List.lookup]
    have hbin : binSuffixes.lookup ('e' :: intText e) = none := by simp [binSuffixes, List.lookup]
    simp only [interpret, hdec, hbin]
    rw [parseInt_intText (by omega) (by omega), Option.map_some, int32_of_bounds hlo hhi]

variable {f : Format}

theorem denotes_of_construct {s : Text} (h : construct f e = some s)
    (he : f = .decimalExponent → -2 ^ 31 ≤ e ∧ e < 2 ^ 31) :
    ∃ f', Denotes s e f' ∧ (f' = .binarySI ↔ f = .binarySI) := by
  cases f with
  | unset => cases h
  | decimalExponent =>
    simp only [construct, Option.some.injEq] at h
    split at h
    · rename_i hzero
      exact ⟨.decimalSI, h ▸ hzero ▸ denotes_nil, by simp⟩
    · exact ⟨.decimalExponent, h ▸ denotes_exponent (he rfl).1 (he rfl).2, by simp⟩
  | decimalSI =>
    refine ⟨.decimalSI, ?_, by simp⟩
    obtain ⟨entry, hfind, rfl⟩ := Option.map_eq_some_iff.mp h
    have he := List.find?_some hfind
    have hmem := List.mem_of_find?_eq_some hfind
    rw [beq_iff_eq] at he
    simp only [decSuffixes, List.mem_cons, List.not_mem_nil, or_false] at hmem
    rcases hmem with rfl | rfl | rfl | rfl | rfl | rfl | rfl | rfl | rfl | rfl <;>
      exact he ▸ ⟨by decide, by decide⟩
  | binarySI =>
    refine ⟨.binarySI, ?_, by simp⟩
    obtain ⟨entry, hfind, rfl⟩ := Option.map_eq_some_iff.mp h
    have he := List.find?_some hfind
    have hmem := List.mem_of_find?_eq_some hfind
    rw [beq_iff_eq] at he
    simp only [binSuffixes, List.mem_cons, List.not_mem_nil, or_false] at hmem
    rcases hmem with rfl | rfl | rfl | rfl | rfl | rfl <;> exact he ▸ ⟨by decide, by decide⟩

theorem parseQuantity_intText {s : Text} (m : ℤ) (h : Denotes s e f) :
    ∃ q, parseQuantity (intText m ++ s) = .ok q ∧
      ((f = .binarySI ∨ -9 ≤ e ∧ e < 2 ^ 31) →
        q.nanos = signed (decide (0 ≤ m)) (amountOf f e m.natAbs)) := by
  have hparse := parseQuantity_whole (splitSign_intText m s) (isNumber_natText _) h.follows
    h.interpret
  rwa [natOf_natText] at hparse

theorem int32_bounds (n : ℤ) : -2 ^ 31 ≤ int32 n ∧ int32 n < 2 ^ 31 := by
  have hlo := Int.le_bmod (x := n) (m := 2 ^ 32) (by norm_num)
  have hhi := Int.bmod_lt (x := n) (m := 2 ^ 32) (by norm_num)
  norm_num at hlo hhi
  unfold int32
  norm_num
  omega

theorem parseQuantity_construct (m : ℤ) (he : f = .decimalExponent → -2 ^ 31 ≤ e ∧ e < 2 ^ 31) :
    ∃ q, parseQuantity (intText m ++ (construct f e).getD []) = .ok q ∧
      ((construct f e).isSome → f = .binarySI ∨ -9 ≤ e ∧ e < 2 ^ 31 →
        q.nanos = signed (decide (0 ≤ m)) (amountOf f e m.natAbs)) := by
  cases hc : construct f e with
  | none =>
    obtain ⟨q, hq, _⟩ := parseQuantity_intText m denotes_nil
    exact ⟨q, hq, nofun⟩
  | some s =>
    obtain ⟨f', hdenotes, hformat⟩ := denotes_of_construct hc he
    obtain ⟨q, hq, hvalue⟩ := parseQuantity_intText m hdenotes
    refine ⟨q, hq, fun _ hexp => ?_⟩
    rw [hvalue (hexp.imp hformat.mpr id)]
    unfold amountOf
    rw [if_congr hformat rfl rfl]

def InRange (q : Quantity) : Prop := q.format = .binarySI → q.nanos.natAbs ≤ maxAllowed

def Lossless (q : Quantity) : Prop :=
  match shownFormat q with
  | .decimalSI => (asCanonical q.nanos.natAbs).2 ≤ 18
  | .decimalExponent => (asCanonical q.nanos.natAbs).2 < 2 ^ 31
  | _ => True

theorem shownFormat_ne_unset (q : Quantity) : shownFormat q ≠ .unset := by
  unfold shownFormat
  cases q.format with
  | unset => exact nofun
  | decimalExponent => exact nofun
  | decimalSI => exact nofun
  | binarySI =>
    dsimp only
    split
    · exact nofun
    · split <;> exact nofun

variable {q : Quantity}

theorem shownFormat_eq_binarySI (h : shownFormat q = .binarySI) :
    q.format = .binarySI ∧ 1024 * 10 ^ 9 ≤ q.nanos.natAbs ∧ q.nanos.natAbs % 10 ^ 9 = 0 := by
  unfold shownFormat at h
  cases hf : q.format with
  | unset => rw [hf] at h; cases h
  | decimalExponent => rw [hf] at h; cases h
  | decimalSI => rw [hf] at h; cases h
  | binarySI =>
    rw [hf] at h
    dsimp only at h
    split at h
    · cases h
    · rename_i hlarge
      split at h
      · cases h
      · rename_i hwhole
        exact ⟨rfl, by omega, by simpa using hwhole⟩

theorem shownFormat_binarySI (hf : q.format = .binarySI) (hlarge : 1024 * 10 ^ 9 ≤ q.nanos.natAbs)
    (hwhole : q.nanos.natAbs % 10 ^ 9 = 0) :
    shownFormat q = .binarySI := by
  unfold shownFormat
  rw [hf]
  rw [if_neg (by omega), if_neg (by simpa using hwhole)]

theorem construct_decimalSI (hlo : -9 ≤ e) (hhi : e ≤ 18) (h3 : e % 3 = 0) :
    (construct .decimalSI e).isSome := by
  have hcases : e = -9 ∨ e = -6 ∨ e = -3 ∨ e = 0 ∨ e = 3 ∨ e = 6 ∨ e = 9 ∨ e = 12 ∨ e = 15 ∨
      e = 18 := by omega
  rcases hcases with rfl | rfl | rfl | rfl | rfl | rfl | rfl | rfl | rfl | rfl <;> decide

theorem construct_binarySI {k : ℕ} (hlo : 1 ≤ k) (hhi : k ≤ 6) :
    (construct .binarySI (k * 10)).isSome := by
  have hcases : k = 1 ∨ k = 2 ∨ k = 3 ∨ k = 4 ∨ k = 5 ∨ k = 6 := by omega
  rcases hcases with rfl | rfl | rfl | rfl | rfl | rfl <;> decide

theorem sign_of_signed {m : ℕ} (hm : m ≠ 0) :
    decide (0 ≤ signed (decide (0 ≤ n)) m) = decide (0 ≤ n) := by
  by_cases h : 0 ≤ n
  · simp [signed, h]
  · simp [signed, h]
    omega

theorem parseQuantity_canonicalize_decimal (hzero : q.nanos ≠ 0) (hf : shownFormat q ≠ .binarySI) :
    ∃ q', parseQuantity (canonicalize q) = .ok q' ∧ (Lossless q → q'.nanos = q.nanos) := by
  obtain ⟨hamount, hlo, h3⟩ := asCanonical_spec (n := q.nanos.natAbs) (by omega)
  obtain ⟨hmin, hmax⟩ := int32_bounds (asCanonical q.nanos.natAbs).2
  have hm : (asCanonical q.nanos.natAbs).1 ≠ 0 := by
    intro hm
    rw [hm] at hamount
    omega
  rw [canonicalize, if_neg hzero, if_neg hf]
  obtain ⟨q', hq', hvalue⟩ := parseQuantity_construct
    (signed (decide (0 ≤ q.nanos)) (asCanonical q.nanos.natAbs).1)
    fun _ => ⟨hmin, hmax⟩
  refine ⟨q', hq', fun hlossless => ?_⟩
  have hexp : (asCanonical q.nanos.natAbs).2 < 2 ^ 31 ∧
      (construct (shownFormat q) (asCanonical q.nanos.natAbs).2).isSome := by
    unfold Lossless at hlossless
    revert hlossless hf
    cases hshown : shownFormat q with
    | unset => exact absurd hshown (shownFormat_ne_unset q)
    | decimalExponent => exact fun _ hlossless => ⟨hlossless, rfl⟩
    | binarySI => exact fun hf => absurd rfl hf
    | decimalSI =>
      intro _ hlossless
      exact ⟨by dsimp only at hlossless; omega, construct_decimalSI hlo hlossless h3⟩
  rw [int32_of_bounds (by omega) hexp.1] at hvalue
  rw [hvalue hexp.2 (Or.inr ⟨hlo, hexp.1⟩), natAbs_signed, sign_of_signed hm, amountOf, if_neg hf,
    hamount,
    signed_natAbs]

theorem signed_natAbs_mul (n : ℤ) (c : ℕ) : signed (decide (0 ≤ n)) (n.natAbs * c) = n * c := by
  rw [signed_mul, signed_natAbs]

theorem asCanonicalBase1024_spec (hn : n ≠ 0) (hrange : n.natAbs < 2 ^ 63) :
    (asCanonicalBase1024 n).1 * (1024 ^ (asCanonicalBase1024 n).2 : ℕ) = n ∧
      ¬ 1024 ∣ (asCanonicalBase1024 n).1.natAbs := by
  obtain ⟨hproduct, hrest⟩ :=
    removeFactors_spec (show 1 < 1024 by omega) n.natAbs n.natAbs (by omega) le_rfl
  rw [asCanonicalBase1024, if_neg (by rintro rfl; omega)]
  rw [← signed_mul, hproduct, signed_natAbs, natAbs_signed]
  exact ⟨rfl, hrest⟩

theorem canonicalize_binary (hf : shownFormat q = .binarySI) (hrange : InRange q) :
    ∃ (m : ℤ) (k : ℕ), canonicalize q = intText m ++ (construct .binarySI (k * 10)).getD [] ∧
      m * (1024 ^ k : ℕ) * (10 ^ 9 : ℕ) = q.nanos ∧ ¬ 1024 ∣ m.natAbs ∧ k ≤ 6 := by
  obtain ⟨hformat, hlarge, hwhole⟩ := shownFormat_eq_binarySI hf
  have hdiv : q.nanos / 10 ^ 9 * (10 ^ 9 : ℕ) = q.nanos := by omega
  have hbound := hrange hformat
  have hfits : (q.nanos / 10 ^ 9).natAbs < 2 ^ 63 := by
    unfold maxAllowed at hbound
    omega
  obtain ⟨hnumber, hrest⟩ := asCanonicalBase1024_spec (by omega) hfits
  rw [canonicalize, if_neg (by omega), if_pos hf]
  rcases hcanonical : asCanonicalBase1024 (q.nanos / 10 ^ 9) with ⟨m, k⟩
  rw [hcanonical] at hnumber hrest
  refine ⟨m, k, rfl, by rw [hnumber, hdiv], hrest, ?_⟩
  -- 1024 to the seventh is beyond 64 bits
  have habs : m.natAbs * 1024 ^ k = (q.nanos / 10 ^ 9).natAbs := by
    rw [← hnumber, Int.natAbs_mul, Int.natAbs_natCast]
  have hm : 0 < m.natAbs := Nat.pos_of_ne_zero fun h => hrest (h ▸ Nat.dvd_zero _)
  by_contra hk
  have hpow : 1024 ^ 7 ≤ 1024 ^ k := Nat.pow_le_pow_right (by omega) (by omega)
  have hle : 1024 ^ k ≤ m.natAbs * 1024 ^ k := Nat.le_mul_of_pos_left _ hm
  omega

theorem parseQuantity_canonicalize_binary (hf : shownFormat q = .binarySI) (hrange : InRange q) :
    ∃ q', parseQuantity (canonicalize q) = .ok q' ∧ q'.nanos = q.nanos := by
  obtain ⟨m, k, htext, hnumber, _, hk⟩ := canonicalize_binary hf hrange
  rw [htext]
  cases k with
  | zero =>
    obtain ⟨q', hq', hvalue⟩ := parseQuantity_intText m denotes_nil
    refine ⟨q', hq', ?_⟩
    rw [hvalue (Or.inr ⟨by omega, by omega⟩), amountOf, if_neg (by decide), signed_natAbs_mul,
      ← hnumber, Nat.pow_zero, Nat.cast_one, Int.mul_one]
    rfl
  | succ k =>
    obtain ⟨q', hq', hvalue⟩ := parseQuantity_construct m (f := .binarySI)
      (e := ((k + 1 : ℕ) : ℤ) * 10) nofun
    refine ⟨q', hq', ?_⟩
    have hexponent : 2 ^ (((k + 1 : ℕ) : ℤ) * 10).toNat = 1024 ^ (k + 1) := by
      rw [show (((k + 1 : ℕ) : ℤ) * 10).toNat = 10 * (k + 1) by omega, Nat.pow_mul]
    have habs : m.natAbs * 1024 ^ (k + 1) * 10 ^ 9 = q.nanos.natAbs := by
      rw [← hnumber, Int.natAbs_mul, Int.natAbs_mul, Int.natAbs_natCast, Int.natAbs_natCast]
    have hbound := hrange (shownFormat_eq_binarySI hf).1
    rw [hvalue (construct_binarySI (by omega) hk) (Or.inl rfl), amountOf, if_pos rfl, hexponent,
      Nat.min_eq_left (habs ▸ hbound), Nat.mul_assoc, signed_natAbs_mul, Nat.cast_mul,
      ← Int.mul_assoc, hnumber]

theorem canonicalize_readable (q : Quantity) : ∃ q', parseQuantity (canonicalize q) = .ok q' := by
  by_cases hzero : q.nanos = 0
  · rw [canonicalize, if_pos hzero]
    exact ⟨_, rfl⟩
  · by_cases hf : shownFormat q = .binarySI
    · rw [canonicalize, if_neg hzero, if_pos hf]
      rcases asCanonicalBase1024 (q.nanos / 10 ^ 9) with ⟨m, k⟩
      obtain ⟨q', hq', _⟩ := parseQuantity_construct m (f := .binarySI) nofun
      exact ⟨q', hq'⟩
    · obtain ⟨q', hq', _⟩ := parseQuantity_canonicalize_decimal hzero hf
      exact ⟨q', hq'⟩

theorem parseQuantity_canonicalize {q' : Quantity} (h : parseQuantity (canonicalize q) = .ok q')
    (hrange : InRange q) (hlossless : Lossless q) : q'.nanos = q.nanos := by
  by_cases hzero : q.nanos = 0
  · rw [canonicalize, if_pos hzero] at h
    cases h
    rw [hzero]
  · by_cases hf : shownFormat q = .binarySI
    · obtain ⟨q₁, h₁, hvalue⟩ := parseQuantity_canonicalize_binary hf hrange
      rw [h] at h₁
      cases h₁
      exact hvalue
    · obtain ⟨q₁, h₁, hvalue⟩ := parseQuantity_canonicalize_decimal hzero hf
      rw [h] at h₁
      cases h₁
      exact hvalue hlossless

theorem quickAmount_le {p : Parts} {exponent : ℤ} {amount : ℕ}
    (h : quickAmount p exponent .binarySI = some amount) : amount ≤ maxAllowed := by
  simp only [quickAmount, Option.ite_none_right_eq_some, Option.some.injEq] at h
  obtain ⟨⟨_, _, hfits⟩, rfl⟩ := h
  exact Nat.mul_le_mul_right _ (Nat.le_sub_one_of_lt hfits)

variable {t : Text}

theorem inRange_of_parseQuantity (h : parseQuantity t = .ok q) :
    InRange q := by
  intro hbinary
  rw [parseQuantity] at h
  split at h
  · cases h
  split at h
  · cases h
    cases hbinary
  split at h
  · cases h
  split at h
  · cases h
  rw [ofParts] at h
  split at h
  · rename_i amount hquick
    cases h
    rw [natAbs_signed]
    subst hbinary
    exact quickAmount_le hquick
  · split at h
    · cases h
      rw [natAbs_signed]
      split at hbinary
      · cases hbinary
      · rw [exactAmount, if_pos hbinary]
        exact Nat.min_le_right _ _
    · cases h

theorem parseQuantity_number (h : IsNumber (splitSign t).2) :
    ∃ q, parseQuantity t = .ok q ∧
      q.nanos = signed (splitSign t).1 (natOf (splitSign t).2) * (10 ^ 9 : ℕ) := by
  have hsign : splitSign t = ((splitSign t).1, (splitSign t).2 ++ []) := by rw [List.append_nil]
  obtain ⟨q, hq, hvalue⟩ := parseQuantity_whole hsign h denotes_nil.follows denotes_nil.interpret
  refine ⟨q, hq, ?_⟩
  rw [hvalue (Or.inr ⟨by omega, by omega⟩), amountOf, if_neg (by decide), signed_mul]
  rfl

theorem text_of_parseQuantity (h : parseQuantity t = .ok q) :
    q.text = [] ∨ q.text = t := by
  unfold parseQuantity at h
  split at h
  · cases h
  split at h
  · cases h
    exact Or.inr rfl
  split at h
  · cases h
  split at h
  · cases h
  · unfold ofParts at h
    split at h
    · cases h
      exact Or.inr rfl
    · split at h
      · cases h
        exact Or.inl rfl
      · cases h

theorem parseQuantity_string (h : parseQuantity t = .ok q) :
    ∃ q', parseQuantity q.string = .ok q' ∧ (q.text ≠ [] → q' = q) := by
  by_cases hkept : q.text = []
  · obtain ⟨q', hq'⟩ := canonicalize_readable q
    rw [Quantity.string, if_pos hkept]
    exact ⟨q', hq', fun hne => absurd hkept hne⟩
  · rw [Quantity.string, if_neg hkept, (text_of_parseQuantity h).resolve_left hkept]
    exact ⟨q, h, fun _ => rfl⟩

theorem parseQuantity_canonicalize_le (hzero : q.nanos ≠ 0) (hf : q.format = .decimalSI) :
    ∃ q', parseQuantity (canonicalize q) = .ok q' ∧ q'.nanos.natAbs ≤ q.nanos.natAbs := by
  have hshown : shownFormat q = .decimalSI := by rw [shownFormat, hf]
  obtain ⟨hamount, hlo, h3⟩ := asCanonical_spec (n := q.nanos.natAbs) (by omega)
  obtain ⟨_, hmax⟩ := int32_bounds (asCanonical q.nanos.natAbs).2
  rw [canonicalize, if_neg hzero, hshown]
  generalize asCanonical q.nanos.natAbs = canonical at hamount hlo h3 hmax
  obtain ⟨m, e⟩ := canonical
  dsimp only at hamount hlo h3 hmax ⊢
  have hread : ∀ s e' f', Denotes s e' f' → f' ≠ .binarySI → -9 ≤ e' → e' < 2 ^ 31 → e' ≤ e →
      ∃ q', parseQuantity (intText (signed (decide (0 ≤ q.nanos)) m) ++ s) = .ok q' ∧
        q'.nanos.natAbs ≤ q.nanos.natAbs := by
    intro s e' f' hs hf' hlo' hhi' hle
    obtain ⟨q', hq', hvalue⟩ := parseQuantity_intText (signed (decide (0 ≤ q.nanos)) m) hs
    refine ⟨q', hq', ?_⟩
    rw [hvalue (Or.inr ⟨hlo', hhi'⟩), natAbs_signed, natAbs_signed, amountOf, if_neg hf', ← hamount]
    exact Nat.mul_le_mul_left m (Nat.pow_le_pow_right (by omega) (by omega))
  cases hc : construct .decimalSI (int32 e) with
  | none =>
    have hlarge : 18 < e := by
      by_contra hsmall
      have hsome := construct_decimalSI hlo (by omega) h3
      rw [int32_of_bounds (by omega) (by omega)] at hc
      rw [hc] at hsome
      cases hsome
    exact hread [] 0 _ denotes_nil (by decide) (by omega) (by omega) (by omega)
  | some s =>
    obtain ⟨f', hdenotes, hf'⟩ := denotes_of_construct hc nofun
    obtain ⟨entry, hfind, _⟩ := Option.map_eq_some_iff.mp hc
    have hlo' : -9 ≤ entry.2 := (by decide : ∀ entry ∈ decSuffixes, -9 ≤ entry.2) entry
      (List.mem_of_find?_eq_some hfind)
    have hentry := List.find?_some hfind
    rw [beq_iff_eq] at hentry
    rw [hentry] at hlo'
    have hle : int32 e ≤ e := by
      by_cases he : e < 2 ^ 31
      · rw [int32_of_bounds (by omega) he]
      · omega
    exact hread s (int32 e) f' hdenotes (fun h => nomatch hf'.mp h) hlo' hmax hle

theorem format_of_number (h : IsNumber (splitSign t).2) (hq : parseQuantity t = .ok q) :
    q.text = t ∨ q.format = .decimalSI := by
  have hsign : splitSign t = ((splitSign t).1, (splitSign t).2 ++ []) := by rw [List.append_nil]
  obtain ⟨p, hparts, hwhole⟩ := parseQuantityString_whole hsign h denotes_nil.follows
  unfold parseQuantity at hq
  split at hq
  · cases hq
  split at hq
  · cases hq
    exact Or.inl rfl
  rw [hparts] at hq
  dsimp only at hq
  rw [hwhole.suffix, denotes_nil.interpret] at hq
  dsimp only [ofParts] at hq
  split at hq
  · cases hq
    exact Or.inl rfl
  · rw [if_pos hwhole.written, if_neg (by simp)] at hq
    cases hq
    exact Or.inr rfl

def isNumeric (c : Char) : Bool := c.isDigit || c ∈ ['-', '+', '.']

theorem splitSign_numeric (str : Text) :
    ∃ sign, str = sign ++ (splitSign str).2 ∧ ∀ c ∈ sign, isNumeric c = true := by
  unfold splitSign
  split
  · exact ⟨['-'], rfl, List.forall_mem_singleton.mpr rfl⟩
  · exact ⟨['+'], rfl, List.forall_mem_singleton.mpr rfl⟩
  · exact ⟨[], rfl, List.forall_mem_nil _⟩

theorem splitPoint_numeric (t : Text) :
    ∃ fraction, t = fraction ++ (splitPoint t).2 ∧ ∀ c ∈ fraction, isNumeric c = true := by
  unfold splitPoint
  split
  · rename_i t
    refine ⟨'.' :: t.takeWhile Char.isDigit, ?_, ?_⟩
    · rw [List.cons_append, List.takeWhile_append_dropWhile]
    · intro c hc
      rcases List.mem_cons.mp hc with rfl | hc
      · rfl
      · simp [isNumeric, List.mem_takeWhile_imp hc]
  · exact ⟨[], rfl, by simp⟩

theorem parseQuantityString_eq {p : Parts} (h : parseQuantityString str = .ok p) :
    ∃ number, str = number ++ p.suffix ∧ ∀ c ∈ number, isNumeric c = true := by
  obtain ⟨sign, hsign, hsign'⟩ := splitSign_numeric str
  have hzeros := List.takeWhile_append_dropWhile (p := (· == '0')) (l := (splitSign str).2)
  have hzeros' : ∀ c ∈ (splitSign str).2.takeWhile (· == '0'), isNumeric c = true := by
    intro c hc
    have hzero : (c == '0') = true := List.mem_takeWhile_imp (p := (· == '0')) hc
    rw [beq_iff_eq.mp hzero]
    rfl
  rw [parseQuantityString] at h
  dsimp only at h
  set t := (splitSign str).2.dropWhile (· == '0')
  split at h
  · rename_i hnil
    cases h
    rw [hnil, List.append_nil] at hzeros
    refine ⟨str, by simp, fun c hc => ?_⟩
    rw [hsign, ← hzeros] at hc
    exact (List.mem_append.mp hc).elim (hsign' c) (hzeros' c)
  · obtain ⟨fraction, hfraction, hfraction'⟩ := splitPoint_numeric (t.dropWhile Char.isDigit)
    split at h
    · cases h
      refine ⟨sign ++ (splitSign str).2.takeWhile (· == '0') ++ t.takeWhile Char.isDigit ++
        fraction, ?_, ?_⟩
      · have hdigits := List.takeWhile_append_dropWhile (p := Char.isDigit) (l := t)
        rw [List.append_assoc _ fraction, ← hfraction, List.append_assoc, hdigits,
          List.append_assoc, hzeros]
        exact hsign
      · intro c hc
        rw [List.mem_append, List.mem_append, List.mem_append] at hc
        rcases hc with ((hc | hc) | hc) | hc
        · exact hsign' c hc
        · exact hzeros' c hc
        · simp [isNumeric, List.mem_takeWhile_imp hc]
        · exact hfraction' c hc
    · cases h

theorem parseInt_numeric (h : parseInt t = some n) :
    ∀ c ∈ t, isNumeric c = true := by
  obtain ⟨sign, hsign, hsign'⟩ := splitSign_numeric t
  intro c hc
  rw [hsign] at hc
  rcases List.mem_append.mp hc with hc | hc
  · exact hsign' c hc
  · simp [isNumeric, List.all_eq_true.mp (parseInt_eq_some h).1.2 c hc]

theorem interpret_decimal {s : Text} (h : interpret s = some (e, f)) (hf : f ≠ .binarySI) :
    'i' ∉ s := by
  have hexponent : ∀ c t, c ≠ 'i' → (parseInt t).map
      (fun exponent => (int32 exponent, Format.decimalExponent)) = some (e, f) → 'i' ∉ c :: t := by
    intro c t hc hparse hmem
    obtain ⟨n, hn, _⟩ := Option.map_eq_some_iff.mp hparse
    rcases List.mem_cons.mp hmem with heq | hmem
    · exact hc heq.symm
    · exact absurd (parseInt_numeric hn 'i' hmem) (by decide)
  unfold interpret at h
  split at h
  · rename_i exponent hlookup
    have htable : ∀ entry ∈ decSuffixes, 'i' ∉ entry.1 := by decide
    obtain ⟨before, after, hsplit, _⟩ := List.lookup_eq_some_iff.mp hlookup
    exact htable (s, exponent) (hsplit ▸ List.mem_append_right before List.mem_cons_self)
  · split at h
    · cases h
      exact absurd rfl hf
    · split at h
      · exact hexponent _ _ (by decide) h
      · exact hexponent _ _ (by decide) h
      · cases h

theorem format_of_parseQuantity (h : parseQuantity t = .ok q) (hi : 'i' ∈ t) :
    q.format = .binarySI ∨ q.nanos.natAbs < 10 ^ 9 := by
  rw [parseQuantity] at h
  split at h
  · cases h
  split at h
  · rename_i hzero
    rw [hzero] at hi
    exact absurd hi (by decide)
  split at h
  · cases h
  rename_i p hparts
  split at h
  · cases h
  rename_i exponent format hinterpret
  obtain ⟨number, rfl, hnumber⟩ := parseQuantityString_eq hparts
  have hsuffix : 'i' ∈ p.suffix :=
    (List.mem_append.mp hi).resolve_left fun hmem => absurd (hnumber 'i' hmem) (by decide)
  have hbinary : format = .binarySI := by
    by_contra hf
    exact interpret_decimal hinterpret hf hsuffix
  rw [ofParts] at h
  split at h
  · cases h
    exact Or.inl hbinary
  · split at h
    · cases h
      rw [natAbs_signed]
      split
      · rename_i hless
        exact Or.inr hless.2.2
      · exact Or.inl hbinary
    · cases h

theorem mem_construct {c : Char} (h : c ∈ (construct f e).getD []) :
    c ≠ 'B' ∧ (f ≠ .binarySI → c ≠ 'i') := by
  have hdec : ∀ entry ∈ decSuffixes, 'B' ∉ entry.1 ∧ 'i' ∉ entry.1 := by decide
  have hbin : ∀ entry ∈ binSuffixes, 'B' ∉ entry.1 := by decide
  cases hconstruct : construct f e with
  | none =>
    rw [hconstruct] at h
    cases h
  | some s =>
    rw [hconstruct] at h
    cases f with
    | unset => cases hconstruct
    | decimalExponent =>
      simp only [construct, Option.some.injEq] at hconstruct
      subst hconstruct
      split at h
      · cases h
      · rcases List.mem_cons.mp h with rfl | h
        · exact ⟨by decide, fun _ => by decide⟩
        · rcases mem_intText h with rfl | hdigit
          · exact ⟨by decide, fun _ => by decide⟩
          · refine ⟨?_, fun _ => ?_⟩ <;> rintro rfl <;> exact absurd hdigit (by decide)
    | decimalSI =>
      obtain ⟨entry, hfind, rfl⟩ := Option.map_eq_some_iff.mp hconstruct
      obtain ⟨hB, hi⟩ := hdec entry (List.mem_of_find?_eq_some hfind)
      exact ⟨ne_of_mem_of_not_mem h hB, fun _ => ne_of_mem_of_not_mem h hi⟩
    | binarySI =>
      obtain ⟨entry, hfind, rfl⟩ := Option.map_eq_some_iff.mp hconstruct
      have hB := hbin entry (List.mem_of_find?_eq_some hfind)
      exact ⟨ne_of_mem_of_not_mem h hB, fun hf => absurd rfl hf⟩

theorem mem_canonicalize {c : Char} (h : c ∈ canonicalize q) :
    c ≠ 'B' ∧ (shownFormat q ≠ .binarySI → c ≠ 'i') := by
  have hnumber : ∀ m : ℤ, c ∈ intText m → c ≠ 'B' ∧ c ≠ 'i' := by
    intro m hc
    rcases mem_intText hc with rfl | hdigit
    · decide
    · constructor <;> rintro rfl <;> exact absurd hdigit (by decide)
  rw [canonicalize] at h
  split at h
  · rw [List.mem_singleton.mp h]
    exact ⟨by decide, fun _ => by decide⟩
  · split at h
    · rename_i hf
      rcases List.mem_append.mp h with hc | hc
      · exact (hnumber _ hc).imp_right fun hi _ => hi
      · exact ⟨(mem_construct hc).1, fun hne => absurd hf hne⟩
    · rcases List.mem_append.mp h with hc | hc
      · exact (hnumber _ hc).imp_right fun hi _ => hi
      · exact mem_construct hc

end Quantities
