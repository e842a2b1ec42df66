import Mathlib.Algebra.Ring.Int.Defs
import Mathlib.Algebra.Ring.Nat
import Mathlib.Data.List.Basic

/-! # The Retry-After header

`dcm/backoff.go` with the reply handling of `dcm/client.go` and the choice of a wait in
`dcm/registrar.go`. -/
namespace RetryAfter

abbrev Duration := Int64

def second : Duration := 1000000000

/-- Nanoseconds since some fixed instant; `Sub` saturates. -/
abbrev Time := ℤ

def timeSub (t u : Time) : Duration :=
  Int64.ofInt (max (-9223372036854775808) (min 9223372036854775807 (t - u)))

def isSpace (c : Char) : Bool :=
  c ∈ ['\t', '\n', '\x0b', '\x0c', '\r', ' ', '\u0085', '\u00a0', '\u1680', '\u2028', '\u2029',
    '\u202f', '\u205f', '\u3000'] || (0x2000 ≤ c.toNat && c.toNat ≤ 0x200a)

def trimSpace (s : String) : String :=
  String.ofList (((s.toList.dropWhile isSpace).reverse.dropWhile isSpace).reverse)

def digitValue (c : Char) : Option ℕ :=
  if '0' ≤ c && c ≤ '9' then some (c.toNat - '0'.toNat) else none

def parseDigits : ℕ → List Char → Option ℕ
  | n, [] => some n
  | n, c :: cs => (digitValue c).bind fun d => parseDigits (n * 10 + d) cs

def parseInt (s : String) : Option ℤ :=
  match s.toList with
  | [] => none
  | ['+'] => none
  | ['-'] => none
  | '+' :: ds => (parseDigits 0 ds).bind fun n => if n < 2 ^ 63 then some n else none
  | '-' :: ds => (parseDigits 0 ds).bind fun n => if n ≤ 2 ^ 63 then some (-n) else none
  | ds => (parseDigits 0 ds).bind fun n => if n < 2 ^ 63 then some n else none

/-- `parseTime` is `http.ParseTime`. -/
def parseRetryAfter (parseTime : String → Option Time) (value : String) (now : Time) :
    Option Duration :=
  let value := trimSpace value
  if value = "" then none
  else
    match parseInt value with
    | some secs => if secs < 0 then none else some (Int64.ofInt secs * second)
    | none =>
      match parseTime value with
      | some t => if 0 < timeSub t now then some (timeSub t now) else none
      | none => none

structure RateLimitError where
  retryAfter : Duration
  hasRetryAfter : Bool
  deriving DecidableEq, Repr

inductive RegistrationError where
  | decode (cause : String)
  | emptyAgentID
  | rateLimited (e : RateLimitError)
  | nonRetryable (statusCode : ℤ)
  | failed (statusCode : ℤ)
  deriving DecidableEq, Repr

/-- `agentID` is what decoding the body gives. An absent header reads as the empty text. -/
structure Response where
  statusCode : ℤ
  retryAfter : String
  agentID : Except String String

def handleRegistrationResponse (parseTime : String → Option Time) (now : Time)
    (resp : Response) : Except RegistrationError String :=
  if 200 ≤ resp.statusCode ∧ resp.statusCode < 300 then
    match resp.agentID with
    | .error cause => .error (.decode cause)
    | .ok agentID => if agentID = "" then .error .emptyAgentID else .ok agentID
  else if resp.statusCode = 429 then
    if resp.retryAfter ≠ "" then
      match parseRetryAfter parseTime resp.retryAfter now with
      | some d => .error (.rateLimited ⟨d, true⟩)
      | none => .error (.rateLimited ⟨0, false⟩)
    else .error (.rateLimited ⟨0, false⟩)
  else if 400 ≤ resp.statusCode ∧ resp.statusCode < 500 then
    .error (.nonRetryable resp.statusCode)
  else .error (.failed resp.statusCode)

def doubleUpTo (max : Duration) : ℕ → Duration → Duration
  | 0, d => if max < d then max else d
  | n + 1, d =>
    if d < max then
      if max / 2 < d then max else doubleUpTo max n (d * 2)
    else if max < d then max else d

def calculateBackoff (initial max : Duration) (attempt : ℤ) : Duration :=
  if initial ≤ 0 then max else doubleUpTo max attempt.toNat initial

structure BackoffConfig where
  initialBackoff : Duration
  maxBackoff : Duration

/-- `jitter` is the random part of the duration that `ApplyJitter` draws. -/
def computeBackoff (config : BackoffConfig) (jitter : Duration → Duration)
    (err : RegistrationError) (attempt : ℤ) : Duration :=
  match err with
  | .rateLimited ⟨retryAfter, true⟩ =>
    if 0 < retryAfter then retryAfter
    else jitter (calculateBackoff config.initialBackoff config.maxBackoff attempt)
  | _ => jitter (calculateBackoff config.initialBackoff config.maxBackoff attempt)

theorem parseInt_lt {value : String} {s : ℤ} (h : parseInt value = some s) : s < 2 ^ 63 := by
  unfold parseInt at h
  split at h
  · cases h
  · cases h
  · cases h
  all_goals
    obtain ⟨n, _, hn⟩ := Option.bind_eq_some_iff.mp h
    split at hn
    · obtain rfl := Option.some.inj hn
      omega
    · cases hn

theorem seconds_exact_iff {s : ℤ} (h0 : 0 ≤ s) (hs : s < 2 ^ 63) :
    (Int64.ofInt s * second).toInt = s * 1000000000 ↔ s ≤ 9223372036 := by
  have hsecond : second.toInt = 1000000000 := rfl
  rw [Int64.toInt_mul, hsecond, Int64.toInt_ofInt_of_le (by omega) hs]
  constructor
  · intro h
    have hbound := (Int64.ofInt s * second).toInt_lt
    rw [Int64.toInt_mul, hsecond, Int64.toInt_ofInt_of_le (by omega) hs] at hbound
    omega
  · intro h
    exact Int.bmod_eq_of_le (by omega) (by omega)

section

variable {parseTime : String → Option Time} {now : Time} {value : String} {s : ℤ}

theorem parseRetryAfter_number (h : parseInt (trimSpace value) = some s) (hpos : 0 < s) :
    parseRetryAfter parseTime value now = some (Int64.ofInt s * second) := by
  have hne : trimSpace value ≠ "" := by
    intro hempty
    rw [hempty] at h
    cases h
  unfold parseRetryAfter
  simp only [if_neg hne, h]
  rw [if_neg (by omega)]

theorem handle_tooManyRequests (h : parseInt (trimSpace value) = some s) (hpos : 0 < s)
    (body : Except String String) :
    handleRegistrationResponse parseTime now ⟨429, value, body⟩ =
      .error (.rateLimited ⟨Int64.ofInt s * second, true⟩) := by
  have hne : value ≠ "" := by
    rintro rfl
    cases h
  unfold handleRegistrationResponse
  rw [if_neg (by simp), if_pos rfl, if_pos hne, parseRetryAfter_number h hpos]

theorem computeBackoff_exact_iff (hpos : 0 < s) (hs : s < 2 ^ 63) (config : BackoffConfig)
    (jitter : Duration → Duration) (attempt : ℤ) :
    (computeBackoff config jitter (.rateLimited ⟨Int64.ofInt s * second, true⟩) attempt).toInt =
      s * 1000000000 ↔ s ≤ 9223372036 := by
  unfold computeBackoff
  dsimp only
  split
  · exact seconds_exact_iff (by omega) hs
  · rename_i hnot
    constructor
    · intro h
      have hbound := (jitter (calculateBackoff config.initialBackoff config.maxBackoff
        attempt)).toInt_lt
      omega
    · intro h
      have hexact := (seconds_exact_iff (by omega) hs).mpr h
      exact absurd (Int64.lt_iff_toInt_lt.mpr (by rw [hexact, Int64.toInt_zero]; omega)) hnot

/-- A positive number of seconds is rejected or waited for exactly, and it is so exactly if it
fits into a duration. -/
theorem retry_after_exact_iff (h : parseInt (trimSpace value) = some s) (hpos : 0 < s)
    (config : BackoffConfig) (jitter : Duration → Duration) (attempt : ℤ)
    (body : Except String String) :
    (parseRetryAfter parseTime value now = none ∨
      ∃ e, handleRegistrationResponse parseTime now ⟨429, value, body⟩ = .error e ∧
        (computeBackoff config jitter e attempt).toInt = s * 1000000000) ↔ s ≤ 9223372036 := by
  rw [parseRetryAfter_number h hpos, handle_tooManyRequests h hpos,
    ← computeBackoff_exact_iff hpos (parseInt_lt h) config jitter attempt]
  simp

end

theorem retry_after_exact_iff_two_minutes :
    parseInt (trimSpace " 120 ") = some 120 ∧
      ∃ e, handleRegistrationResponse (fun _ => none) 0 ⟨429, " 120 ", .error ""⟩ = .error e ∧
        (computeBackoff ⟨second, 300 * second⟩ id e 0).toInt = 120 * 1000000000 := by
  have hparse : parseInt (trimSpace " 120 ") = some 120 := by decide +kernel
  refine ⟨hparse, ?_⟩
  have h := (@retry_after_exact_iff (fun _ => none) 0 " 120 " 120 hparse (by decide)
    ⟨second, 300 * second⟩ id 0 (.error "")).mpr (by decide)
  exact h.resolve_left (by decide +kernel)

/-- Almost six centuries are taken for less than a third of a second. -/
theorem long_retry_after_wraps :
    parseInt (trimSpace "18446744074") = some 18446744074 ∧
      parseRetryAfter (fun _ => none) "18446744074" 0 ≠ none ∧
      ∃ e, handleRegistrationResponse (fun _ => none) 0 ⟨429, "18446744074", .error ""⟩ = .error e ∧
        (computeBackoff ⟨second, 300 * second⟩ id e 0).toInt = 290448384 ∧
        (290448384 : ℤ) < 18446744074 * 1000000000 :=
  ⟨by decide +kernel, by decide +kernel, .rateLimited ⟨290448384, true⟩, by decide +kernel,
    by decide +kernel, by decide⟩

end RetryAfter
