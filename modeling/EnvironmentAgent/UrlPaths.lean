import Mathlib.Data.List.Basic
import Mathlib.Data.List.Induction
import Mathlib.Data.Nat.Notation

/-! # Paths of URLs

Percent-encoding and the lexical cleaning of paths. A path is text; what it denotes is a sequence of
bytes. -/
namespace UrlPaths

def isAlphanumeric (b : UInt8) : Bool :=
  (48 ≤ b && b ≤ 57) || (65 ≤ b && b ≤ 90) || (97 ≤ b && b ≤ 122)

def segmentByte (b : UInt8) : Bool :=
  isAlphanumeric b || b ∈ [45, 95, 46, 126] || b ∈ [36, 38, 43, 58, 61, 64]

def pathByte (b : UInt8) : Bool := segmentByte b || b ∈ [44, 47, 59]

def upperhex (n : ℕ) : Char := if n < 10 then Char.ofNat (48 + n) else Char.ofNat (55 + n)

def unhex (c : Char) : Option ℕ :=
  if '0' ≤ c ∧ c ≤ '9' then some (c.toNat - 48)
  else if 'a' ≤ c ∧ c ≤ 'f' then some (c.toNat - 87)
  else if 'A' ≤ c ∧ c ≤ 'F' then some (c.toNat - 55)
  else none

def escapeByte (keep : UInt8 → Bool) (b : UInt8) : List Char :=
  if keep b then [Char.ofNat b.toNat] else ['%', upperhex (b.toNat / 16), upperhex (b.toNat % 16)]

def escape (keep : UInt8 → Bool) (bs : List UInt8) : List Char := bs.flatMap (escapeByte keep)

def unescape : List Char → Option (List UInt8)
  | [] => some []
  | '%' :: a :: b :: rest =>
    match unhex a, unhex b with
    | some hi, some lo => (unescape rest).map (UInt8.ofNat (16 * hi + lo) :: ·)
    | _, _ => none
  | '%' :: _ => none
  | c :: rest => (unescape rest).map (String.utf8EncodeChar c ++ ·)

def validPathChar (c : Char) : Bool :=
  (c.toNat < 128 && pathByte (UInt8.ofNat c.toNat)) ||
    c ∈ ['!', '\'', '(', ')', '*', '[', ']', '%']

section Equations

attribute [local simp] unescape

theorem unescape_cons {c : Char} (hc : c ≠ '%') (rest : List Char) :
    unescape (c :: rest) = (unescape rest).map (String.utf8EncodeChar c ++ ·) := by
  rw [unescape]
  all_goals simp [hc]

theorem unescape_percent (a b : Char) (rest : List Char) {hi lo : ℕ} (ha : unhex a = some hi)
    (hb : unhex b = some lo) : unescape ('%' :: a :: b :: rest) =
      (unescape rest).map (UInt8.ofNat (16 * hi + lo) :: ·) := by
  simp [ha, hb]

theorem unescape_bad (a b : Char) (rest : List Char)
    (h : ∀ hi lo, unhex a = some hi → unhex b = some lo → False) :
    unescape ('%' :: a :: b :: rest) = none := by
  rw [unescape]
  split
  case h_1 hi lo hhi hlo => exact (h hi lo hhi hlo).elim
  case h_2 => rfl

end Equations

theorem unescape_slash (s t : List Char) : (unescape (s ++ '/' :: t)).isSome ↔
    (unescape s).isSome ∧ (unescape t).isSome := by
  fun_induction unescape s with
  | case1 =>
    rw [List.nil_append, unescape_cons (by decide), Option.isSome_map]
    simp
  | case2 a b rest hi lo hlo hhi ih =>
    rw [List.cons_append, List.cons_append, List.cons_append, unescape_percent a b _ hhi hlo,
      Option.isSome_map, Option.isSome_map, ih]
  | case3 a b rest hbad =>
    rw [List.cons_append, List.cons_append, List.cons_append, unescape_bad a b _ hbad]
    simp
  | case4 rest hshort =>
    -- A slash is no hexadecimal digit.
    have hnone : unescape ('%' :: rest ++ '/' :: t) = none := by
      rcases rest with _ | ⟨a, _ | ⟨b, rest⟩⟩
      · cases t with
        | nil => rfl
        | cons c t => exact unescape_bad '/' c t (by simp [unhex])
      · exact unescape_bad a '/' t (by simp [unhex])
      · exact (hshort a b rest rfl).elim
    rw [hnone]
    simp
  | case5 c rest hlong hshort ih =>
    have hc : c ≠ '%' := fun hc => hshort hc
    rw [List.cons_append, unescape_cons hc, Option.isSome_map, Option.isSome_map, ih]

theorem byte_cases {P : UInt8 → Prop} (h : ∀ n < 256, P (UInt8.ofNat n)) (b : UInt8) : P b := by
  have hb := h b.toNat b.toNat_lt
  rwa [UInt8.ofNat_toNat] at hb

theorem unhex_upperhex {n : ℕ} (h : n < 16) : unhex (upperhex n) = some n := by
  revert n
  decide

theorem upperhex_char {n : ℕ} (h : n < 16) :
    upperhex n ≠ '/' ∧ validPathChar (upperhex n) = true := by
  revert n
  decide

theorem pathByte_char (b : UInt8) : pathByte b = true →
    Char.ofNat b.toNat ≠ '%' ∧ String.utf8EncodeChar (Char.ofNat b.toNat) = [b] ∧
      validPathChar (Char.ofNat b.toNat) = true := by
  apply byte_cases _ b
  decide +kernel

theorem segmentByte_char (b : UInt8) : segmentByte b = true →
    Char.ofNat b.toNat ≠ '/' ∧ pathByte b = true := by
  apply byte_cases _ b
  decide +kernel

theorem mem_escape {keep : UInt8 → Bool} {bs : List UInt8} {c : Char} (h : c ∈ escape keep bs) :
    (∃ b, keep b = true ∧ c = Char.ofNat b.toNat) ∨ c = '%' ∨ ∃ n < 16, c = upperhex n := by
  obtain ⟨b, _, hc⟩ := List.mem_flatMap.mp h
  have hlt := b.toNat_lt
  rw [escapeByte] at hc
  split at hc
  case isTrue hb => exact Or.inl ⟨b, hb, List.mem_singleton.mp hc⟩
  case isFalse =>
    simp only [List.mem_cons, List.not_mem_nil, or_false] at hc
    rcases hc with hc | hc | hc
    · exact Or.inr (Or.inl hc)
    · exact Or.inr (Or.inr ⟨b.toNat / 16, by omega, hc⟩)
    · exact Or.inr (Or.inr ⟨b.toNat % 16, by omega, hc⟩)

section Escape

variable {keep : UInt8 → Bool} (hkeep : ∀ b, keep b = true → pathByte b = true)
include hkeep

theorem unescape_escapeByte (b : UInt8) (rest : List Char) :
    unescape (escapeByte keep b ++ rest) = (unescape rest).map (b :: ·) := by
  rw [escapeByte]
  by_cases hb : keep b = true
  · obtain ⟨hpercent, hbytes, _⟩ := pathByte_char b (hkeep b hb)
    rw [if_pos hb, List.singleton_append, unescape_cons hpercent, hbytes]
    rfl
  · have hlt := b.toNat_lt
    have hhi := unhex_upperhex (n := b.toNat / 16) (by omega)
    have hlo := unhex_upperhex (n := b.toNat % 16) (by omega)
    have hsum : UInt8.ofNat (16 * (b.toNat / 16) + b.toNat % 16) = b := by
      rw [Nat.div_add_mod, UInt8.ofNat_toNat]
    rw [if_neg hb, List.cons_append, List.cons_append, List.cons_append, List.nil_append,
      unescape_percent _ _ rest hhi hlo, hsum]

theorem unescape_escape (bs : List UInt8) : unescape (escape keep bs) = some bs := by
  induction bs with
  | nil => rfl
  | cons b bs ih =>
    rw [escape, List.flatMap_cons, unescape_escapeByte hkeep, ← escape, ih]
    rfl

theorem escape_injective : Function.Injective (escape keep) := by
  intro bs bs' h
  have hdecoded := congrArg unescape h
  rw [unescape_escape hkeep, unescape_escape hkeep] at hdecoded
  exact Option.some.inj hdecoded

theorem escape_valid (bs : List UInt8) : ∀ c ∈ escape keep bs, validPathChar c = true := by
  intro c hc
  rcases mem_escape hc with ⟨b, hb, rfl⟩ | rfl | ⟨n, hn, rfl⟩
  · exact (pathByte_char b (hkeep b hb)).2.2
  · decide
  · exact (upperhex_char hn).2

end Escape

theorem segmentByte_le (b : UInt8) (h : segmentByte b = true) : pathByte b = true :=
  (segmentByte_char b h).2

theorem slash_notMem_escape (bs : List UInt8) : '/' ∉ escape segmentByte bs := by
  intro h
  rcases mem_escape h with ⟨b, hb, hc⟩ | hc | ⟨n, hn, hc⟩
  · exact (segmentByte_char b hb).1 hc.symm
  · cases hc
  · exact (upperhex_char hn).1 hc.symm

/-- An empty segment or a single dot goes, two dots take the segment before them along. -/
def pushSegment (stack : List (List Char)) (seg : List Char) : List (List Char) :=
  if seg = [] ∨ seg = ['.'] then stack
  else if seg = ['.', '.'] then stack.dropLast
  else stack ++ [seg]

def cleanSegments (p : List Char) : List (List Char) := (p.splitOn '/').foldl pushSegment []

def render (segs : List (List Char)) : List Char := segs.flatMap ('/' :: ·)

def renderRooted (segs : List (List Char)) : List Char := if segs = [] then ['/'] else render segs

def clean (p : List Char) : List Char := renderRooted (cleanSegments p)

theorem cleanSegments_append (p : List Char) {seg : List Char} (h : '/' ∉ seg) :
    cleanSegments (p ++ '/' :: seg) = pushSegment (cleanSegments p) seg := by
  have hsplit : (p ++ '/' :: seg).splitOn '/' = p.splitOn '/' ++ [seg] := by
    rw [← List.splitOn_eq_singleton h]
    exact List.splitOnP_append_cons p seg (by simp)
  rw [cleanSegments, hsplit, List.foldl_append]
  rfl

theorem pushSegment_subset (stack : List (List Char)) (seg : List Char) :
    ∀ s ∈ pushSegment stack seg, s ∈ stack ∨ s = seg := by
  intro s hs
  rw [pushSegment] at hs
  split at hs
  · exact Or.inl hs
  split at hs
  · exact Or.inl (List.dropLast_subset stack hs)
  · simpa using hs

theorem cleanSegments_subset (p : List Char) : ∀ s ∈ cleanSegments p, s ∈ p.splitOn '/' := by
  have hfold : ∀ (segs stack : List (List Char)), ∀ s ∈ segs.foldl pushSegment stack,
      s ∈ stack ∨ s ∈ segs := by
    intro segs
    induction segs with
    | nil => exact fun stack s hs => Or.inl hs
    | cons seg segs ih =>
      intro stack s hs
      rcases ih (pushSegment stack seg) s hs with hpushed | hlater
      · rcases pushSegment_subset stack seg s hpushed with hold | rfl
        · exact Or.inl hold
        · exact Or.inr List.mem_cons_self
      · exact Or.inr (List.mem_cons_of_mem seg hlater)
  intro s hs
  rcases hfold (p.splitOn '/') [] s hs with hnil | hseg
  · cases hnil
  · exact hseg

theorem render_append (segs : List (List Char)) (seg : List Char) :
    render (segs ++ [seg]) = render segs ++ '/' :: seg := by
  simp [render]

theorem length_render_dropLast (segs : List (List Char)) :
    (render segs.dropLast).length ≤ (render segs).length := by
  rcases List.eq_nil_or_concat segs with rfl | ⟨init, last, rfl⟩
  · exact Nat.le_refl _
  · rw [List.concat_eq_append, List.dropLast_concat, render_append, List.length_append]
    omega

theorem renderRooted_cons (segs : List (List Char)) : ∃ rest, renderRooted segs = '/' :: rest := by
  cases segs with
  | nil => exact ⟨[], rfl⟩
  | cons seg segs => exact ⟨seg ++ render segs, by simp [renderRooted, render]⟩

structure WellEncoded (p : List Char) : Prop where
  valid : ∀ c ∈ p, validPathChar c = true
  complete : (unescape p).isSome

theorem wellEncoded_nil : WellEncoded [] := ⟨by simp, rfl⟩

theorem wellEncoded_escape {keep : UInt8 → Bool} (hkeep : ∀ b, keep b = true → pathByte b = true)
    (bs : List UInt8) : WellEncoded (escape keep bs) :=
  ⟨escape_valid hkeep bs, by rw [unescape_escape hkeep]; rfl⟩

theorem wellEncoded_slash (s t : List Char) :
    WellEncoded (s ++ '/' :: t) ↔ WellEncoded s ∧ WellEncoded t := by
  have hslash : validPathChar '/' = true := by decide
  constructor
  · intro h
    obtain ⟨hs, ht⟩ := (unescape_slash s t).mp h.complete
    exact ⟨⟨fun c hc => h.valid c (by simp [hc]), hs⟩, ⟨fun c hc => h.valid c (by simp [hc]), ht⟩⟩
  · intro h
    obtain ⟨hs, ht⟩ := h
    refine ⟨fun c hc => ?_, (unescape_slash s t).mpr ⟨hs.complete, ht.complete⟩⟩
    rcases List.mem_append.mp hc with hc | hc
    · exact hs.valid c hc
    rcases List.mem_cons.mp hc with rfl | hc
    · exact hslash
    · exact ht.valid c hc

variable {p : List Char}

theorem WellEncoded.segments (h : WellEncoded p) :
    ∀ s ∈ p.splitOn '/', WellEncoded s := by
  have hjoined : ∀ segs : List (List Char), WellEncoded (['/'].intercalate segs) →
      ∀ s ∈ segs, WellEncoded s := by
    intro segs
    induction segs with
    | nil => simp
    | cons seg segs ih =>
      intro hw s hs
      cases segs with
      | nil =>
        rw [List.mem_singleton.mp hs]
        simpa using hw
      | cons next segs =>
        rw [List.intercalate_cons_cons, List.append_assoc] at hw
        obtain ⟨hseg, hrest⟩ := (wellEncoded_slash seg _).mp hw
        rcases List.mem_cons.mp hs with rfl | hs
        · exact hseg
        · exact ih hrest s hs
  exact hjoined (p.splitOn '/') (by rwa [List.intercalate_splitOn])

variable {segs : List (List Char)}

theorem wellEncoded_render (h : ∀ s ∈ segs, WellEncoded s) :
    WellEncoded (render segs) := by
  induction segs using List.reverseRecOn with
  | nil => exact wellEncoded_nil
  | append_singleton segs seg ih =>
    rw [render_append]
    apply (wellEncoded_slash _ _).mpr
    exact ⟨ih fun s hs => h s (List.mem_append_left _ hs), h seg (by simp)⟩

theorem wellEncoded_renderRooted (h : ∀ s ∈ segs, WellEncoded s) :
    WellEncoded (renderRooted segs) := by
  rw [renderRooted]
  split
  · exact (wellEncoded_slash [] []).mpr ⟨wellEncoded_nil, wellEncoded_nil⟩
  · exact wellEncoded_render h

/-- `setPath` and then `EscapedPath`: the text itself where it is a valid encoding, else the
encoding of what it denotes. A lone star is never escaped. -/
def escapedPath (p : List Char) : Option (List Char) :=
  (unescape p).map fun path =>
    if p ≠ escape pathByte path ∧ p.all validPathChar then p
    else if path = [42] then ['*']
    else escape pathByte path

def joinPath (base elem : List Char) : List Char :=
  let p := if base.head? = some '/' then clean (base ++ '/' :: elem)
    else (clean ('/' :: base ++ '/' :: elem)).tail
  if elem.getLast? = some '/' ∧ p.getLast? ≠ some '/' then p ++ ['/'] else p

theorem escapedPath_isSome (h : (unescape p).isSome) : (escapedPath p).isSome := by
  rw [escapedPath, Option.isSome_map, h]

theorem wellEncoded_star : WellEncoded ['*'] := by
  constructor
  · intro c hc
    rw [List.mem_singleton.mp hc]
    decide
  · rfl

theorem WellEncoded.of_escapedPath {q : List Char} (h : escapedPath p = some q) :
    WellEncoded q := by
  obtain ⟨path, hpath, hq⟩ := Option.map_eq_some_iff.mp h
  split at hq
  case isTrue hraw =>
    subst hq
    exact ⟨List.all_eq_true.mp hraw.2, by rw [hpath]; rfl⟩
  case isFalse =>
    split at hq
    · subst hq
      exact wellEncoded_star
    · subst hq
      exact wellEncoded_escape (fun _ h => h) path

theorem WellEncoded.escapedPath_eq (h : WellEncoded p) (hstar : unescape p ≠ some [42]) :
    escapedPath p = some p := by
  obtain ⟨path, hpath⟩ := Option.isSome_iff_exists.mp h.complete
  have hne : path ≠ [42] := fun heq => hstar (by rw [hpath, heq])
  have hvalid : p.all validPathChar = true := List.all_eq_true.mpr h.valid
  rw [escapedPath, hpath, Option.map_some]
  by_cases hp : p = escape pathByte path
  · simp [hne, ← hp]
  · simp [hp, hvalid]

theorem unescape_rooted (p : List Char) : unescape ('/' :: p) ≠ some [42] := by
  rw [unescape_cons (by decide)]
  cases unescape p with
  | none => simp
  | some bs => simp [show String.utf8EncodeChar '/' = [47] by decide]

theorem escapedPath_rooted {q : List Char} (h : escapedPath ('/' :: p) = some q) :
    ∃ rest, q = '/' :: rest := by
  obtain ⟨path, hpath, hq⟩ := Option.map_eq_some_iff.mp h
  rw [unescape_cons (by decide)] at hpath
  obtain ⟨bs, _, rfl⟩ := Option.map_eq_some_iff.mp hpath
  split at hq
  · exact ⟨p, hq.symm⟩
  · exact ⟨escape pathByte bs, hq.symm⟩

theorem joinPath_rooted (base : List Char) {elem : List Char} (h : '/' ∉ elem) :
    joinPath ('/' :: base) elem =
      renderRooted (pushSegment (cleanSegments ('/' :: base)) elem) := by
  have hlast : elem.getLast? ≠ some '/' := fun hl => h (List.mem_of_getLast? hl)
  simp only [joinPath, hlast, false_and, if_false, List.head?_cons, if_true, clean]
  rw [cleanSegments_append _ h]

theorem joinPath_nil {elem : List Char} (h : '/' ∉ elem) :
    joinPath [] elem = (renderRooted (pushSegment [] elem)).tail := by
  have hlast : elem.getLast? ≠ some '/' := fun hl => h (List.mem_of_getLast? hl)
  have hclean : clean ('/' :: [] ++ '/' :: elem) = renderRooted (pushSegment [] elem) := by
    rw [clean, cleanSegments_append _ h]
    rfl
  simp only [joinPath, hlast, false_and, if_false, List.head?_nil, hclean]
  rfl

end UrlPaths
