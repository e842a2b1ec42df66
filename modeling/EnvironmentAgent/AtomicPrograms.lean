import Mathlib.Logic.Function.Basic
import Mathlib.Data.List.Forall2

/-! # Programs over atomic operations

A program issues one atomic operation at a time and continues with its answer. -/
namespace AtomicPrograms

structure Signature where
  Op : Type
  Ans : Op → Type

inductive Prog (S : Signature) (α : Type) where
  | ret (a : α)
  | raise
  | call (o : S.Op) (k : S.Ans o → Prog S α)

variable {S : Signature} {α β M : Type}

def Prog.bind : Prog S α → (α → Prog S β) → Prog S β
  | .ret a, f => f a
  | .raise, _ => .raise
  | .call o k, f => .call o fun x => (k x).bind f

instance : Monad (Prog S) where
  pure := .ret
  bind := Prog.bind

theorem Prog.bind_ret (p : Prog S α) : p.bind .ret = p := by
  induction p with
  | ret a => rfl
  | raise => rfl
  | call o k ih => exact congrArg (Prog.call o) (funext ih)

theorem Prog.bind_assoc {γ : Type} (p : Prog S α) (f : α → Prog S β) (g : β → Prog S γ) :
    (p.bind f).bind g = p.bind fun a => (f a).bind g := by
  induction p with
  | ret a => rfl
  | raise => rfl
  | call o k ih => exact congrArg (Prog.call o) (funext ih)

instance : LawfulMonad (Prog S) :=
  LawfulMonad.mk' (Prog S) Prog.bind_ret (fun _ _ => rfl) Prog.bind_assoc

def Prog.perform (o : S.Op) : Prog S (S.Ans o) := .call o .ret

def Prog.ensure (p : Prog S α) (d : Option α → Prog S Unit) : Prog S α :=
  match p with
  | .ret a => (d (some a)).bind fun _ => .ret a
  | .raise => (d none).bind fun _ => .raise
  | .call o k => .call o fun x => (k x).ensure d

def Prog.recover (p h : Prog S α) : Prog S α :=
  match p with
  | .ret a => .ret a
  | .raise => h
  | .call o k => .call o fun x => (k x).recover h

def Prog.each (xs : List β) (f : β → Prog S Unit) : Prog S Unit :=
  match xs with
  | [] => .ret ()
  | x :: xs => (f x).bind fun _ => Prog.each xs f

def Ended : Prog S α → Prop
  | .call _ _ => False
  | _ => True

instance : (p : Prog S α) → Decidable (Ended p)
  | .call _ _ => inferInstanceAs (Decidable False)
  | .ret _ => inferInstanceAs (Decidable True)
  | .raise => inferInstanceAs (Decidable True)

abbrev Event (S : Signature) := (o : S.Op) × S.Ans o

/-- A complete execution, with every answer it received. An outcome `none` unwound. -/
inductive Exec : Prog S α → List (Event S) → Option α → Prop where
  | ret (a : α) : Exec (.ret a) [] (some a)
  | raise : Exec .raise [] none
  | call (o : S.Op) {k : S.Ans o → Prog S α} (x : S.Ans o) {t : List (Event S)} {r : Option α}
      (h : Exec (k x) t r) : Exec (.call o k) (⟨o, x⟩ :: t) r

variable {t : List (Event S)} {r : Option α} {a : α}

@[simp] theorem exec_ret :
    Exec (.ret a) t r ↔ t = [] ∧ r = some a := by
  constructor
  · intro h; cases h; exact ⟨rfl, rfl⟩
  · rintro ⟨rfl, rfl⟩; exact .ret a

@[simp] theorem exec_raise :
    Exec (.raise : Prog S α) t r ↔ t = [] ∧ r = none := by
  constructor
  · intro h; cases h; exact ⟨rfl, rfl⟩
  · rintro ⟨rfl, rfl⟩; exact .raise

variable {o : S.Op} {k : S.Ans o → Prog S α}

theorem exec_call :
    Exec (.call o k) t r ↔ ∃ x u, t = ⟨o, x⟩ :: u ∧ Exec (k x) u r := by
  constructor
  · intro h
    cases h with
    | call _ x h => exact ⟨x, _, rfl, h⟩
  · rintro ⟨x, u, rfl, h⟩; exact .call o x h

theorem exec_bind' {p : Prog S α} {f : α → Prog S β} {r : Option β} :
    Exec (p.bind f) t r ↔
      (∃ a t₁ t₂, t = t₁ ++ t₂ ∧ Exec p t₁ (some a) ∧ Exec (f a) t₂ r) ∨
        (Exec p t none ∧ r = none) := by
  induction p generalizing t with
  | ret a => simp [Prog.bind]
  | raise => simp [Prog.bind]
  | call o k ih =>
    simp only [Prog.bind, exec_call, ih]
    constructor
    · rintro ⟨x, u, rfl, ⟨a, t₁, t₂, rfl, h₁, h₂⟩ | ⟨h, rfl⟩⟩
      · exact Or.inl ⟨a, ⟨o, x⟩ :: t₁, t₂, rfl, ⟨x, t₁, rfl, h₁⟩, h₂⟩
      · exact Or.inr ⟨⟨x, u, rfl, h⟩, rfl⟩
    · rintro (⟨a, _, t₂, rfl, ⟨x, t₁, rfl, h₁⟩, h₂⟩ | ⟨⟨x, u, rfl, h⟩, rfl⟩)
      · exact ⟨x, t₁ ++ t₂, rfl, Or.inl ⟨a, t₁, t₂, rfl, h₁, h₂⟩⟩
      · exact ⟨x, u, rfl, Or.inr ⟨h, rfl⟩⟩

theorem exec_bind {p : Prog S α} {f : α → Prog S β} {r : Option β} :
    Exec (p >>= f) t r ↔
      (∃ a t₁ t₂, t = t₁ ++ t₂ ∧ Exec p t₁ (some a) ∧ Exec (f a) t₂ r) ∨
        (Exec p t none ∧ r = none) :=
  exec_bind'

theorem exec_perform_bind {f : S.Ans o → Prog S β} {r : Option β} :
    Exec (Prog.perform o >>= f) t r ↔ ∃ x t', t = ⟨o, x⟩ :: t' ∧ Exec (f x) t' r :=
  exec_call

theorem exec_perform_pure (o : S.Op) (x : S.Ans o) (b : β) :
    Exec (Prog.perform o >>= fun _ => pure b) [⟨o, x⟩] (some b) :=
  exec_perform_bind.2 ⟨x, [], rfl, .ret b⟩

variable {d : Option α → Prog S Unit}

theorem exec_ensure {p : Prog S α} :
    Exec (p.ensure d) t r ↔ ∃ out t₁ t₂, t = t₁ ++ t₂ ∧ Exec p t₁ out ∧
      ((Exec (d out) t₂ (some ()) ∧ r = out) ∨ (Exec (d out) t₂ none ∧ r = none)) := by
  induction p generalizing t with
  | ret a => simp [Prog.ensure, exec_bind', Unique.exists_iff]
  | raise => simp [Prog.ensure, exec_bind', Unique.exists_iff]
  | call o k ih =>
    simp only [Prog.ensure, exec_call, ih]
    constructor
    · rintro ⟨x, u, rfl, out, t₁, t₂, rfl, h₁, h₂⟩
      exact ⟨out, ⟨o, x⟩ :: t₁, t₂, rfl, ⟨x, t₁, rfl, h₁⟩, h₂⟩
    · rintro ⟨out, _, t₂, rfl, ⟨x, t₁, rfl, h₁⟩, h₂⟩
      exact ⟨x, t₁ ++ t₂, rfl, out, t₁, t₂, rfl, h₁, h₂⟩

theorem exec_recover {p h : Prog S α} :
    Exec (p.recover h) t r ↔ (∃ a, r = some a ∧ Exec p t (some a)) ∨
      ∃ t₁ t₂, t = t₁ ++ t₂ ∧ Exec p t₁ none ∧ Exec h t₂ r := by
  induction p generalizing t with
  | ret a => simp [Prog.recover, and_comm]
  | raise => simp [Prog.recover]
  | call o k ih =>
    simp only [Prog.recover, exec_call, ih]
    constructor
    · rintro ⟨x, u, rfl, ⟨a, rfl, h₁⟩ | ⟨t₁, t₂, rfl, h₁, h₂⟩⟩
      · exact Or.inl ⟨a, rfl, x, u, rfl, h₁⟩
      · exact Or.inr ⟨⟨o, x⟩ :: t₁, t₂, rfl, ⟨x, t₁, rfl, h₁⟩, h₂⟩
    · rintro (⟨a, rfl, x, u, rfl, h₁⟩ | ⟨_, t₂, rfl, ⟨x, t₁, rfl, h₁⟩, h₂⟩)
      · exact ⟨x, u, rfl, Or.inl ⟨a, rfl, h₁⟩⟩
      · exact ⟨x, t₁ ++ t₂, rfl, Or.inr ⟨t₁, t₂, rfl, h₁, h₂⟩⟩

inductive Segments (f : β → Prog S Unit) :
    List β → List (List (Event S)) → Option Unit → Prop where
  | nil : Segments f [] [] (some ())
  | cons {x : β} {xs : List β} {seg : List (Event S)} {segs : List (List (Event S))}
      {out : Option Unit} (h : Exec (f x) seg (some ())) (hs : Segments f xs segs out) :
      Segments f (x :: xs) (seg :: segs) out
  | stop {x : β} {xs : List β} {seg : List (Event S)} (h : Exec (f x) seg none) :
      Segments f (x :: xs) [seg] none

variable {xs : List β}

theorem exec_each {f : β → Prog S Unit} {out : Option Unit} :
    Exec (Prog.each xs f) t out ↔ ∃ segs, t = segs.flatten ∧ Segments f xs segs out := by
  induction xs generalizing t with
  | nil =>
    refine Iff.trans exec_ret ⟨?_, ?_⟩
    · rintro ⟨rfl, rfl⟩
      exact ⟨[], rfl, .nil⟩
    · rintro ⟨_, rfl, ⟨⟩⟩
      exact ⟨rfl, rfl⟩
  | cons x xs ih =>
    simp only [Prog.each, exec_bind', ih]
    constructor
    · rintro (⟨_, t₁, t₂, rfl, h₁, segs, rfl, hsegs⟩ | ⟨h, rfl⟩)
      · exact ⟨t₁ :: segs, rfl, .cons h₁ hsegs⟩
      · exact ⟨[t], by simp, .stop h⟩
    · rintro ⟨_, rfl, hsegs⟩
      cases hsegs with
      | cons h hs => exact Or.inl ⟨(), _, _, rfl, h, _, rfl, hs⟩
      | stop h => exact Or.inr ⟨by simpa using h, rfl⟩

variable {segs : List (List (Event S))}

theorem Segments.exec {f : β → Prog S Unit} {out : Option Unit} (h : Segments f xs segs out) {i : ℕ}
    {x : β} {seg : List (Event S)} (hx : xs[i]? = some x) (hseg : segs[i]? = some seg) :
    ∃ r, Exec (f x) seg r := by
  induction h generalizing i with
  | nil => simp at hx
  | cons h hs ih =>
    cases i with
    | zero =>
      obtain ⟨rfl, rfl⟩ := And.intro (Option.some.inj hx) (Option.some.inj hseg)
      exact ⟨_, h⟩
    | succ i => exact ih (by simpa using hx) (by simpa using hseg)
  | stop h =>
    cases i with
    | zero =>
      obtain ⟨rfl, rfl⟩ := And.intro (Option.some.inj hx) (Option.some.inj hseg)
      exact ⟨_, h⟩
    | succ i => simp at hseg

theorem Segments.forall₂ {f : β → Prog S Unit} (h : Segments f xs segs (some ())) :
    List.Forall₂ (fun x seg => Exec (f x) seg (some ())) xs segs := by
  induction xs generalizing segs with
  | nil =>
    cases h
    exact .nil
  | cons x xs ih =>
    cases h with
    | cons he hs => exact .cons he (ih hs)

theorem exists_segments {f : β → Prog S Unit} (completes : ∀ x, ∃ t, Exec (f x) t (some ())) {i : ℕ}
    {x : β} {seg : List (Event S)} (hx : xs[i]? = some x) (hseg : Exec (f x) seg (some ())) :
    ∃ segs, Segments f xs segs (some ()) ∧ segs[i]? = some seg := by
  have all : ∀ xs : List β, ∃ segs, Segments f xs segs (some ()) := by
    intro xs
    induction xs with
    | nil => exact ⟨[], .nil⟩
    | cons y ys ih =>
      obtain ⟨t, ht⟩ := completes y
      obtain ⟨segs, hsegs⟩ := ih
      exact ⟨t :: segs, .cons ht hsegs⟩
  induction xs generalizing i with
  | nil => simp at hx
  | cons y ys ih =>
    cases i with
    | zero =>
      obtain rfl := Option.some.inj hx
      obtain ⟨segs, hsegs⟩ := all ys
      exact ⟨seg :: segs, .cons hseg hsegs, rfl⟩
    | succ i =>
      obtain ⟨t, ht⟩ := completes y
      obtain ⟨segs, hsegs, hi⟩ := ih (by simpa using hx)
      exact ⟨t :: segs, .cons ht hsegs, by simpa using hi⟩

abbrev Handler (S : Signature) (W : Type) := (o : S.Op) → W → S.Ans o × W

def Prog.eval {W : Type} (f : Handler S W) : Prog S α → W → List (Event S) × Option α × W
  | .ret a, w => ([], some a, w)
  | .raise, w => ([], none, w)
  | .call o k, w =>
    (⟨o, (f o w).1⟩ :: ((k (f o w).1).eval f (f o w).2).1, ((k (f o w).1).eval f (f o w).2).2)

theorem Prog.exec_eval {W : Type} (f : Handler S W) (p : Prog S α) (w : W) :
    Exec p (p.eval f w).1 (p.eval f w).2.1 := by
  induction p generalizing w with
  | ret a => exact .ret a
  | raise => exact .raise
  | call o k ih => exact .call o _ (ih _ _)

section Runs

variable {W : Type} {f : Handler S W}

def Runs (f : Handler S W) : Prog S α → W → (List (Event S) → Option α → W → Prop) → Prop
  | .ret a, w, Q => Q [] (some a) w
  | .raise, w, Q => Q [] none w
  | .call o k, w, Q => Runs f (k (f o w).1) (f o w).2 fun t r w' => Q (⟨o, (f o w).1⟩ :: t) r w'

variable {p : Prog S α} {w : W} {P Q : List (Event S) → Option α → W → Prop}

theorem runs_iff : Runs f p w Q ↔ Q (p.eval f w).1 (p.eval f w).2.1 (p.eval f w).2.2 := by
  induction p generalizing w Q with
  | ret a => exact Iff.rfl
  | raise => exact Iff.rfl
  | call o k ih => exact ih _

theorem Runs.call {x : S.Ans o} {u : W} (h : f o w = (x, u))
    (hk : Runs f (k x) u fun t r w' => Q (⟨o, x⟩ :: t) r w') : Runs f (.call o k) w Q := by
  change Runs f (k (f o w).1) (f o w).2 fun t r w' => Q (⟨o, (f o w).1⟩ :: t) r w'
  rw [h]
  exact hk

theorem Runs.mono (hp : Runs f p w P) (hpq : ∀ t r w', P t r w' → Q t r w') : Runs f p w Q :=
  runs_iff.2 (hpq _ _ _ (runs_iff.1 hp))

theorem Runs.bind {k : α → Prog S β} {R : List (Event S) → Option β → W → Prop}
    (hp : Runs f p w P)
    (hk : ∀ t a w', P t (some a) w' → Runs f (k a) w' fun u r w'' => R (t ++ u) r w'')
    (hnone : ∀ t w', P t none w' → R t none w') : Runs f (p >>= k) w R := by
  induction p generalizing w P R with
  | ret a => exact hk [] a w hp
  | raise => exact hnone [] w hp
  | call o c ih => exact ih _ hp (fun t a w' => hk _ a w') fun t w' => hnone _ w'

theorem Runs.map {b : β} {R : List (Event S) → Option β → W → Prop} (hp : Runs f p w P)
    (hR : ∀ t r w', P t r w' → R t (r.map fun _ => b) w') : Runs f (p >>= fun _ => pure b) w R := by
  refine hp.bind (fun t a w' h => ?_) fun t w' h => hR t none w' h
  change R (t ++ []) (some b) w'
  rw [List.append_nil]
  exact hR t (some a) w' h

theorem Runs.ensure (hp : Runs f p w P)
    (hd : ∀ t r w', P t r w' → Runs f (d r) w' fun u x w'' => x = some () ∧ Q (t ++ u) r w'') :
    Runs f (p.ensure d) w Q := by
  induction p generalizing w P Q with
  | ret a =>
    refine Runs.bind (hd [] (some a) w hp) (fun t _ w' h => ?_) fun _ _ h => by simp at h
    simpa [Runs] using h.2
  | raise =>
    refine Runs.bind (hd [] none w hp) (fun t _ w' h => ?_) fun _ _ h => by simp at h
    simpa [Runs] using h.2
  | call o c ih => exact ih _ hp fun t r w' => hd _ r w'

theorem Runs.recover {h : Prog S α} (hp : Runs f p w P)
    (hsome : ∀ t a w', P t (some a) w' → Q t (some a) w')
    (hnone : ∀ t w', P t none w' → Runs f h w' fun u r w'' => Q (t ++ u) r w'') :
    Runs f (p.recover h) w Q := by
  induction p generalizing w P Q with
  | ret a => exact hsome [] a w hp
  | raise => exact hnone [] w hp
  | call o c ih => exact ih _ hp (fun t a w' => hsome _ a w') fun t w' => hnone _ w'

end Runs

/-! ## Properties of all executions

`Yields p Q` computes what has to hold for every execution of `p` to satisfy `Q`. -/

def Yields : Prog S α → (Option α → List (Event S) → Prop) → Prop
  | .ret a, Q => Q (some a) []
  | .raise, Q => Q none []
  | .call o k, Q => ∀ x, Yields (k x) fun r t => Q r (⟨o, x⟩ :: t)

theorem yields_iff {p : Prog S α} {Q : Option α → List (Event S) → Prop} :
    Yields p Q ↔ ∀ t r, Exec p t r → Q r t := by
  induction p generalizing Q with
  | ret a =>
    refine ⟨fun h t r he => ?_, fun h => h _ _ (.ret a)⟩
    obtain ⟨rfl, rfl⟩ := exec_ret.1 he
    exact h
  | raise =>
    refine ⟨fun h t r he => ?_, fun h => h _ _ .raise⟩
    obtain ⟨rfl, rfl⟩ := exec_raise.1 he
    exact h
  | call o k ih =>
    simp only [Yields, ih]
    constructor
    · intro h t r he
      obtain ⟨x, u, rfl, hu⟩ := exec_call.1 he
      exact h x u r hu
    · exact fun h x t r he => h _ _ (.call o x he)

@[simp] theorem yields_pure {Q : Option α → List (Event S) → Prop} :
    Yields (pure a : Prog S α) Q ↔ Q (some a) [] := Iff.rfl

theorem Yields.exec {p : Prog S α} {Q : Option α → List (Event S) → Prop} (h : Yields p Q)
    (he : Exec p t r) : Q r t :=
  yields_iff.1 h t r he

theorem Yields.mono {p : Prog S α} {Q R : Option α → List (Event S) → Prop} (h : Yields p Q)
    (hqr : ∀ r t, Q r t → R r t) : Yields p R :=
  yields_iff.2 fun t r he => hqr r t (h.exec he)

theorem Yields.bind {p : Prog S α} {f : α → Prog S β} {P : Option α → List (Event S) → Prop}
    {Q : Option β → List (Event S) → Prop} (hp : Yields p P)
    (hf : ∀ a t, P (some a) t → Yields (f a) fun r t' => Q r (t ++ t'))
    (hnone : ∀ t, P none t → Q none t) : Yields (p >>= f) Q := by
  refine yields_iff.2 fun t r he => ?_
  rcases exec_bind.1 he with ⟨a, t₁, t₂, rfl, h₁, h₂⟩ | ⟨h, rfl⟩
  · exact (hf a t₁ (hp.exec h₁)).exec h₂
  · exact hnone t (hp.exec h)

/-- The deferred code of `ensure` runs after every outcome; it is assumed not to unwind. -/
theorem Yields.ensure {p : Prog S α} {P Q : Option α → List (Event S) → Prop} (hp : Yields p P)
    (hd : ∀ r t, P r t → Yields (d r) fun u t' => u.isSome = true ∧ Q r (t ++ t')) :
    Yields (p.ensure d) Q := by
  refine yields_iff.2 fun t r he => ?_
  obtain ⟨out, t₁, t₂, rfl, h₁, ⟨h₂, rfl⟩ | ⟨h₂, rfl⟩⟩ := exec_ensure.1 he
  · exact ((hd _ _ (hp.exec h₁)).exec h₂).2
  · simpa using ((hd _ _ (hp.exec h₁)).exec h₂).1

theorem Yields.recover {p h : Prog S α} {P Q : Option α → List (Event S) → Prop} (hp : Yields p P)
    (hsome : ∀ a t, P (some a) t → Q (some a) t)
    (hnone : ∀ t, P none t → Yields h fun r t' => Q r (t ++ t')) : Yields (p.recover h) Q := by
  induction p generalizing P Q with
  | ret a => exact hsome a [] hp
  | raise => exact hnone [] hp
  | call o k ih =>
    exact fun x => ih x (hp x) (fun a t => hsome a _) fun t => hnone _

def May : Prog S α → (Option α → List (Event S) → Prop) → Prop
  | .ret a, Q => Q (some a) []
  | .raise, Q => Q none []
  | .call o k, Q => ∃ x, May (k x) fun r t => Q r (⟨o, x⟩ :: t)

theorem may_iff {p : Prog S α} {Q : Option α → List (Event S) → Prop} :
    May p Q ↔ ∃ t r, Exec p t r ∧ Q r t := by
  induction p generalizing Q with
  | ret a => simp [May]
  | raise => simp [May]
  | call o k ih =>
    simp only [May, ih, exec_call]
    constructor
    · rintro ⟨x, t, r, he, hq⟩
      exact ⟨_, r, ⟨x, t, rfl, he⟩, hq⟩
    · rintro ⟨_, r, ⟨x, t, rfl, he⟩, hq⟩
      exact ⟨x, t, r, he, hq⟩

theorem May.mono {p : Prog S α} {Q R : Option α → List (Event S) → Prop} (h : May p Q)
    (hqr : ∀ r t, Q r t → R r t) : May p R := by
  obtain ⟨t, r, he, hq⟩ := may_iff.1 h
  exact may_iff.2 ⟨t, r, he, hqr r t hq⟩

theorem May.and_yields {p : Prog S α} {Q R : Option α → List (Event S) → Prop} (h : May p Q)
    (hy : Yields p R) : May p fun r t => Q r t ∧ R r t := by
  obtain ⟨t, r, he, hq⟩ := may_iff.1 h
  exact may_iff.2 ⟨t, r, he, hq, hy.exec he⟩

theorem May.bind {p : Prog S α} {f : α → Prog S β} {P : Option α → List (Event S) → Prop}
    {Q : Option β → List (Event S) → Prop} (hp : May p P)
    (hf : ∀ r t, P r t → ∃ a, r = some a ∧ May (f a) fun r' t' => Q r' (t ++ t')) :
    May (p >>= f) Q := by
  obtain ⟨t, r, he, hP⟩ := may_iff.1 hp
  obtain ⟨a, rfl, hfa⟩ := hf r t hP
  obtain ⟨t', r', he', hQ⟩ := may_iff.1 hfa
  exact may_iff.2 ⟨t ++ t', r', exec_bind.2 (Or.inl ⟨a, t, t', rfl, he, he'⟩), hQ⟩

theorem May.ensure {p : Prog S α} {P Q : Option α → List (Event S) → Prop} (hp : May p P)
    (hd : ∀ r t, P r t → May (d r) fun u t' => u = some () ∧ Q r (t ++ t')) :
    May (p.ensure d) Q := by
  obtain ⟨t, r, he, hP⟩ := may_iff.1 hp
  obtain ⟨t', _, he', rfl, hQ⟩ := may_iff.1 (hd r t hP)
  exact may_iff.2 ⟨t ++ t', r, exec_ensure.2 ⟨r, t, t', rfl, he, Or.inl ⟨he', rfl⟩⟩, hQ⟩

/-! ## Monitors

A monitor watches the events of one program. It states which operations are allowed in
which monitor state; `Follows` says that a program stays allowed on every answer. -/

structure Monitor (S : Signature) (M : Type) where
  allowed : M → S.Op → Prop
  next : M → Event S → M

def Monitor.after (A : Monitor S M) (m : M) (t : List (Event S)) : M := t.foldl A.next m

def Monitor.Accepts (A : Monitor S M) : M → List (Event S) → Prop
  | _, [] => True
  | m, e :: t => A.allowed m e.1 ∧ A.Accepts (A.next m e) t

@[simp] theorem Monitor.after_nil (A : Monitor S M) (m : M) : A.after m [] = m := rfl
@[simp] theorem Monitor.after_cons (A : Monitor S M) (m : M) (e : Event S) (t) :
    A.after m (e :: t) = A.after (A.next m e) t := rfl
@[simp] theorem Monitor.after_append (A : Monitor S M) (m : M) (t u : List (Event S)) :
    A.after m (t ++ u) = A.after (A.after m t) u := List.foldl_append ..

theorem Monitor.accepts_append (A : Monitor S M) (m : M) (t u : List (Event S)) :
    A.Accepts m (t ++ u) ↔ A.Accepts m t ∧ A.Accepts (A.after m t) u := by
  induction t generalizing m with
  | nil => simp [Accepts]
  | cons e t ih => simp [Accepts, ih, and_assoc]

theorem Monitor.accepts_split {A : Monitor S M} {m : M} {before after : List (Event S)}
    {e : Event S} (h : A.Accepts m (before ++ e :: after)) :
    A.allowed (A.after m before) e.1 :=
  ((A.accepts_append m before (e :: after)).mp h).2.1

def Follows (A : Monitor S M) : Prog S α → M → (Option α → M → Prop) → Prop
  | .ret a, m, Q => Q (some a) m
  | .raise, m, Q => Q none m
  | .call o k, m, Q => A.allowed m o ∧ ∀ x, Follows A (k x) (A.next m ⟨o, x⟩) Q

def andThen (Q : Option β → M → Prop) (F : α → M → Prop) : Option α → M → Prop
  | some a, m => F a m
  | none, m => Q none m

@[simp] theorem andThen_some (Q : Option β → M → Prop) (F : α → M → Prop) (a : α) (m : M) :
    andThen Q F (some a) m = F a m := rfl
@[simp] theorem andThen_none (Q : Option β → M → Prop) (F : α → M → Prop) (m : M) :
    andThen Q F none m = Q none m := rfl

variable {A : Monitor S M} {m : M}

@[simp] theorem follows_ret {Q : Option α → M → Prop} :
    Follows A (.ret a) m Q ↔ Q (some a) m := Iff.rfl
@[simp] theorem follows_pure {Q : Option α → M → Prop} :
    Follows A (pure a : Prog S α) m Q ↔ Q (some a) m := Iff.rfl
@[simp] theorem follows_raise {Q : Option α → M → Prop} :
    Follows A (.raise : Prog S α) m Q ↔ Q none m := Iff.rfl

theorem Follows.mono {p : Prog S α} {Q R : Option α → M → Prop}
    (h : Follows A p m Q) (hqr : ∀ r m', Q r m' → R r m') : Follows A p m R := by
  induction p generalizing m with
  | ret a => exact hqr _ _ h
  | raise => exact hqr _ _ h
  | call o k ih => exact ⟨h.1, fun x => ih x (h.2 x)⟩

theorem follows_bind' {p : Prog S α} {f : α → Prog S β} {Q : Option β → M → Prop} :
    Follows A (p.bind f) m Q ↔ Follows A p m (andThen Q fun a m' => Follows A (f a) m' Q) := by
  induction p generalizing m with
  | ret a => exact Iff.rfl
  | raise => exact Iff.rfl
  | call o k ih => exact and_congr Iff.rfl (forall_congr' fun x => ih x)

theorem follows_bind {p : Prog S α} {f : α → Prog S β} {Q : Option β → M → Prop} :
    Follows A (p >>= f) m Q ↔ Follows A p m (andThen Q fun a m' => Follows A (f a) m' Q) :=
  follows_bind'

theorem follows_ensure {p : Prog S α} {Q : Option α → M → Prop} :
    Follows A (p.ensure d) m Q ↔
      Follows A p m fun r m' => Follows A (d r) m' (andThen Q fun _ m'' => Q r m'') := by
  induction p generalizing m with
  | ret a => exact follows_bind'
  | raise => exact follows_bind'
  | call o k ih => exact and_congr Iff.rfl (forall_congr' fun x => ih x)

theorem follows_recover {p h : Prog S α} {Q : Option α → M → Prop} :
    Follows A (p.recover h) m Q ↔
      Follows A p m fun r m' => if r.isSome then Q r m' else Follows A h m' Q := by
  induction p generalizing m with
  | ret a => simp [Prog.recover]
  | raise => simp [Prog.recover]
  | call o k ih => exact and_congr Iff.rfl (forall_congr' fun x => ih x)

/-- The loop rule: an invariant of the monitor state indexed by the items still to come.
An unwinding body ends the loop with the outcome `none`. -/
theorem follows_each {f : β → Prog S Unit} (I : List β → M → Prop) (Q : Option Unit → M → Prop)
    (step : ∀ x xs m, I (x :: xs) m → Follows A (f x) m (andThen Q fun _ m' => I xs m'))
    (done : ∀ m, I [] m → Q (some ()) m) (h : I xs m) :
    Follows A (Prog.each xs f) m Q := by
  induction xs generalizing m with
  | nil => exact done m h
  | cons x xs ih =>
    refine follows_bind'.2 ((step x xs m h).mono ?_)
    intro r m' hr
    cases r with
    | none => exact hr
    | some u => exact ih hr

theorem Follows.exec {p : Prog S α} {Q : Option α → M → Prop} (h : Follows A p m Q)
    (he : Exec p t r) :
    A.Accepts m t ∧ Q r (A.after m t) := by
  induction he generalizing m with
  | ret a => exact ⟨trivial, h⟩
  | raise => exact ⟨trivial, h⟩
  | call o x _ ih =>
    have hx := ih (h.2 x)
    exact ⟨⟨h.1, hx.1⟩, hx.2⟩

def Monitor.tracking (A : Monitor S M) (fair : Event S → Bool) : Monitor S (M × Bool) where
  allowed m := A.allowed m.1
  next m e := (A.next m.1 e, m.2 && fair e)

theorem Monitor.tracking_after (A : Monitor S M) (fair : Event S → Bool) (m : M) (b : Bool)
    (t : List (Event S)) :
    (A.tracking fair).after (m, b) t = (A.after m t, b && t.all fair) := by
  induction t generalizing m b with
  | nil => simp
  | cons e t ih =>
    calc (A.tracking fair).after (m, b) (e :: t)
        = (A.tracking fair).after (A.next m e, b && fair e) t := rfl
      _ = (A.after m (e :: t), b && (e :: t).all fair) := by simp [ih, Bool.and_assoc]

def Prog.Uses (P : S.Op → Prop) : Prog S α → Prop
  | .ret _ => True
  | .raise => False
  | .call o k => P o ∧ ∀ x, (k x).Uses P

theorem Prog.Uses.bind {P : S.Op → Prop} {p : Prog S α} {f : α → Prog S β}
    (hp : p.Uses P) (hf : ∀ a, (f a).Uses P) : (p >>= f).Uses P := by
  induction p with
  | ret a => exact hf a
  | raise => exact hp.elim
  | call o k ih => exact ⟨hp.1, fun x => ih x (hp.2 x)⟩

theorem Prog.Uses.perform_bind {P : S.Op → Prop} {f : S.Ans o → Prog S β} (ho : P o)
    (hf : ∀ x, (f x).Uses P) : (Prog.perform o >>= f).Uses P := ⟨ho, hf⟩

theorem Prog.Uses.yields {P : S.Op → Prop} {p : Prog S α} (h : p.Uses P) :
    Yields p fun r t => r.isSome = true ∧ ∀ e ∈ t, P e.1 := by
  induction p with
  | ret a => exact ⟨rfl, by simp⟩
  | raise => exact h.elim
  | call o k ih =>
    intro x
    refine (ih x (h.2 x)).mono fun r t hr => ⟨hr.1, ?_⟩
    simp only [List.mem_cons]
    rintro e (rfl | he)
    · exact h.1
    · exact hr.2 e he

def Prog.Within (P : S.Op → Prop) : Prog S α → Prop
  | .ret _ => True
  | .raise => True
  | .call o k => P o ∧ ∀ x, (k x).Within P

section Within

variable {P Q : S.Op → Prop} {p : Prog S α}

theorem Prog.Within.perform (h : P o) : (Prog.perform o).Within P :=
  ⟨h, fun _ => trivial⟩

theorem Prog.Within.mono (h : p.Within P) (hPQ : ∀ o, P o → Q o) : p.Within Q := by
  induction p with
  | ret a => trivial
  | raise => trivial
  | call o k ih => exact ⟨hPQ o h.1, fun x => ih x (h.2 x)⟩

theorem Prog.Within.bind {f : α → Prog S β} (hp : p.Within P) (hf : ∀ a, (f a).Within P) :
    (p >>= f).Within P := by
  induction p with
  | ret a => exact hf a
  | raise => trivial
  | call o k ih => exact ⟨hp.1, fun x => ih x (hp.2 x)⟩

theorem Prog.Within.ensure (hp : p.Within P) (hd : ∀ r, (d r).Within P) :
    (p.ensure d).Within P := by
  induction p with
  | ret a => exact (hd (some a)).bind fun _ => trivial
  | raise => exact (hd none).bind fun _ => trivial
  | call o k ih => exact ⟨hp.1, fun x => ih x (hp.2 x)⟩

theorem Prog.Within.recover {h : Prog S α} (hp : p.Within P) (hh : h.Within P) :
    (p.recover h).Within P := by
  induction p with
  | ret a => trivial
  | raise => exact hh
  | call o k ih => exact ⟨hp.1, fun x => ih x (hp.2 x)⟩

theorem Prog.Within.each {f : β → Prog S Unit} (h : ∀ x ∈ xs, (f x).Within P) :
    (Prog.each xs f).Within P := by
  induction xs with
  | nil => trivial
  | cons x xs ih =>
    obtain ⟨hx, hxs⟩ := List.forall_mem_cons.mp h
    exact hx.bind fun _ => ih hxs

theorem Prog.Within.exec (h : p.Within P) (he : Exec p t r) : ∀ e ∈ t, P e.1 := by
  induction he with
  | ret a => exact List.forall_mem_nil _
  | raise => exact List.forall_mem_nil _
  | call o x _ ih => exact List.forall_mem_cons.mpr ⟨h.1, ih (h.2 x)⟩

end Within

def Monitor.Ignores (A : Monitor S M) (P : S.Op → Prop) : Prop :=
  ∀ m o, P o → A.allowed m o ∧ ∀ x, A.next m ⟨o, x⟩ = m

theorem Prog.Uses.invariant {P : S.Op → Prop} {p : Prog S α} (I : M → Prop) (h : p.Uses P)
    (hI : ∀ m o, P o → I m → A.allowed m o ∧ ∀ x, I (A.next m ⟨o, x⟩)) (hm : I m) :
    Follows A p m fun r m' => r.isSome = true ∧ I m' := by
  induction p generalizing m with
  | ret a => exact ⟨rfl, hm⟩
  | raise => exact h.elim
  | call o k ih =>
    obtain ⟨hallowed, hnext⟩ := hI m o h.1 hm
    exact ⟨hallowed, fun x => ih x (h.2 x) (hnext x)⟩

theorem Monitor.after_ignored (A : Monitor S M) {P : S.Op → Prop} (hA : A.Ignores P)
    (ht : ∀ e ∈ t, P e.1) : A.after m t = m := by
  induction t with
  | nil => rfl
  | cons e t ih =>
    rw [after_cons, (hA m e.1 (ht e (by simp))).2 e.2]
    exact ih fun e' he' => ht e' (by simp [he'])

theorem Prog.Uses.follows {P : S.Op → Prop} {p : Prog S α} {Q : Option α → M → Prop}
    (h : p.Uses P) (hA : A.Ignores P) (hq : ∀ a, Q (some a) m) : Follows A p m Q := by
  induction p with
  | ret a => exact hq a
  | raise => exact h.elim
  | call o k ih =>
    obtain ⟨hallowed, hnext⟩ := hA m o h.1
    refine ⟨hallowed, fun x => ?_⟩
    rw [hnext x]
    exact ih x (h.2 x)

def Restores (A : Monitor S M) (m : M) (p : Prog S α) : Prop := Follows A p m fun _ m' => m' = m

theorem Restores.perform (hallowed : A.allowed m o) (hnext : ∀ x, A.next m ⟨o, x⟩ = m) :
    Restores A m (Prog.perform o) :=
  ⟨hallowed, hnext⟩

theorem Restores.bind {p : Prog S α} {f : α → Prog S β} (hp : Restores A m p)
    (hf : ∀ a, Restores A m (f a)) : Restores A m (p >>= f) := by
  refine follows_bind.2 (Follows.mono hp ?_)
  rintro (_ | a) m' rfl
  · rfl
  · exact hf a

theorem Restores.ensure {p : Prog S α} (hp : Restores A m p) (hd : ∀ r, Restores A m (d r)) :
    Restores A m (p.ensure d) := by
  refine follows_ensure.2 (Follows.mono hp ?_)
  rintro r m' rfl
  refine Follows.mono (hd r) ?_
  rintro (_ | u) m'' rfl <;> rfl

/-! ## Programs that keep an invariant of the monitor state

The invariant holds at both ends and after an unwinding; in between the program may leave it. -/

def Preserves (A : Monitor S M) (I : M → Prop) (p : Prog S α) : Prop :=
  ∀ m, I m → Follows A p m fun _ m' => I m'

section Preserves

variable {I : M → Prop}

theorem Preserves.pure (a : α) : Preserves A I (Pure.pure a : Prog S α) := fun _ hm => hm

theorem Preserves.perform (h : ∀ m, I m → A.allowed m o ∧ ∀ x, I (A.next m ⟨o, x⟩)) :
    Preserves A I (Prog.perform o) :=
  h

variable {p : Prog S α}

theorem Preserves.bind {f : α → Prog S β} (hp : Preserves A I p) (hf : ∀ a, Preserves A I (f a)) :
    Preserves A I (p >>= f) := by
  intro m hm
  refine follows_bind.2 ((hp m hm).mono ?_)
  rintro (_ | a) m' hm'
  · exact hm'
  · exact hf a m' hm'

theorem Preserves.bind_yields {f : α → Prog S β} {P : α → Prop} (hp : Preserves A I p)
    (hP : Yields p fun r _ => ∀ a, r = some a → P a) (hf : ∀ a, P a → Preserves A I (f a)) :
    Preserves A I (p >>= f) := by
  intro m hm
  refine follows_bind.2 ?_
  have h := hp m hm
  clear hp hm
  induction p generalizing m with
  | ret a => exact hf a (hP a rfl) m h
  | raise => exact h
  | call o k ih => exact ⟨h.1, fun x => ih x (hP x) _ (h.2 x)⟩

theorem Preserves.each {f : β → Prog S Unit} (hf : ∀ x ∈ xs, Preserves A I (f x)) :
    Preserves A I (Prog.each xs f) := by
  induction xs with
  | nil => exact Preserves.pure ()
  | cons x xs ih =>
    exact Preserves.bind (hf x (by simp)) fun _ => ih fun y hy => hf y (by simp [hy])

theorem Preserves.ensure (hp : Preserves A I p) (hd : ∀ r, Preserves A I (d r)) :
    Preserves A I (p.ensure d) := by
  intro m hm
  refine follows_ensure.2 ((hp m hm).mono ?_)
  intro r m' hm'
  refine (hd r m' hm').mono ?_
  rintro (_ | u) m'' hm'' <;> exact hm''

theorem Preserves.recover {h : Prog S α} (hp : Preserves A I p) (hh : Preserves A I h) :
    Preserves A I (p.recover h) := by
  intro m hm
  refine follows_recover.2 ((hp m hm).mono ?_)
  rintro (_ | a) m' hm'
  · exact hh m' hm'
  · exact hm'

theorem Preserves.ite {c : Prop} [Decidable c] {q : Prog S α} (hp : c → Preserves A I p)
    (hq : ¬ c → Preserves A I q) : Preserves A I (if c then p else q) := by
  split
  · exact hp ‹_›
  · exact hq ‹_›

end Preserves

section Assumption

variable (A : Monitor S M) (env : Event S → Prop)

def Reaches (p : Prog S α) (a : α) : Prop := ∃ t, Exec p t (some a) ∧ ∀ e ∈ t, env e

def Complies (p : Prog S α) : Prop := ∀ t r, Exec p t r → (∀ e ∈ t, env e) → ∀ m, A.Accepts m t

def Breaks (p : Prog S α) : Prop := ∃ t r, Exec p t r ∧ (∀ e ∈ t, env e) ∧ ∀ m, ¬ A.Accepts m t

variable {A env}

theorem Complies.call (hallowed : ∀ m, A.allowed m o) (hk : ∀ x, env ⟨o, x⟩ → Complies A env (k x))
    : Complies A env (.call o k) := by
  intro t r he henv m
  obtain ⟨x, u, rfl, hu⟩ := exec_call.1 he
  obtain ⟨hx, henv⟩ := List.forall_mem_cons.mp henv
  exact ⟨hallowed m, hk x hx u r hu henv _⟩

variable {p : Prog S α}

theorem Complies.bind {f : α → Prog S β} (hp : Complies A env p)
    (hf : ∀ a, Reaches env p a → Complies A env (f a)) : Complies A env (p >>= f) := by
  intro t r he henv m
  rcases exec_bind.1 he with ⟨a, t₁, t₂, rfl, h₁, h₂⟩ | ⟨h, -⟩
  · obtain ⟨henv₁, henv₂⟩ := List.forall_mem_append.mp henv
    exact (A.accepts_append m t₁ t₂).mpr
      ⟨hp t₁ _ h₁ henv₁ m, hf a ⟨t₁, h₁, henv₁⟩ t₂ r h₂ henv₂ _⟩
  · exact hp t none h henv m

variable {f : β → Prog S Unit}

theorem Complies.each (hf : ∀ x ∈ xs, Complies A env (f x)) :
    Complies A env (Prog.each xs f) := by
  induction xs with
  | nil =>
    intro t r he _ m
    obtain ⟨rfl, -⟩ := exec_ret.1 he
    trivial
  | cons x xs ih =>
    exact Complies.bind (hf x List.mem_cons_self) fun _ _ =>
      ih fun y hy => hf y (List.mem_cons_of_mem _ hy)

variable {Q : Option α → List (Event S) → Prop}

theorem Reaches.yields (h : Reaches env p a) (hQ : Yields p Q) : ∃ t, Q (some a) t :=
  h.imp fun _ ht => hQ.exec ht.1

theorem Reaches.perform (hx : env ⟨o, x⟩) :
    Reaches env (Prog.perform o) x :=
  ⟨[⟨o, x⟩], .call o x (.ret x), List.forall_mem_singleton.mpr hx⟩

theorem Reaches.bind {f : α → Prog S β} {b : β} (hp : Reaches env p a) (hf : Reaches env (f a) b) :
    Reaches env (p >>= f) b := by
  obtain ⟨t₁, h₁, henv₁⟩ := hp
  obtain ⟨t₂, h₂, henv₂⟩ := hf
  exact ⟨t₁ ++ t₂, exec_bind.2 (Or.inl ⟨a, t₁, t₂, rfl, h₁, h₂⟩),
    List.forall_mem_append.mpr ⟨henv₁, henv₂⟩⟩

theorem Reaches.each (hf : ∀ x ∈ xs, Reaches env (f x) ()) :
    Reaches env (Prog.each xs f) () := by
  induction xs with
  | nil => exact ⟨[], .ret (), nofun⟩
  | cons x xs ih =>
    exact Reaches.bind (hf x List.mem_cons_self) (ih fun y hy => hf y (List.mem_cons_of_mem _ hy))

theorem Reaches.breaks {f : α → Prog S β} (hp : Reaches env p a) (hf : Breaks A env (f a)) :
    Breaks A env (p >>= f) := by
  obtain ⟨t₁, h₁, henv₁⟩ := hp
  obtain ⟨t₂, r, h₂, henv₂, hbad⟩ := hf
  refine ⟨t₁ ++ t₂, r, exec_bind.2 (Or.inl ⟨a, t₁, t₂, rfl, h₁, h₂⟩),
    List.forall_mem_append.mpr ⟨henv₁, henv₂⟩, fun m hm => ?_⟩
  exact hbad _ ((A.accepts_append m t₁ t₂).mp hm).2

theorem Breaks.call {x : S.Ans o} (hx : env ⟨o, x⟩) (hk : Breaks A env (k x)) :
    Breaks A env (.call o k) := by
  obtain ⟨t, r, he, henv, hbad⟩ := hk
  exact ⟨⟨o, x⟩ :: t, r, .call o x he, List.forall_mem_cons.mpr ⟨hx, henv⟩,
    fun m hm => hbad _ hm.2⟩

section Total

variable {answer : (o : S.Op) → S.Ans o} (total : ∀ o, env ⟨o, answer o⟩)

include total in
theorem exists_exec (p : Prog S α) : ∃ t r, Exec p t r ∧ ∀ e ∈ t, env e := by
  induction p with
  | ret a => exact ⟨[], _, .ret a, nofun⟩
  | raise => exact ⟨[], _, .raise, nofun⟩
  | call o k ih =>
    obtain ⟨t, r, he, henv⟩ := ih (answer o)
    exact ⟨_, r, .call o _ he, List.forall_mem_cons.mpr ⟨total o, henv⟩⟩

include total in
theorem Yields.reaches (h : Yields p Q) (hQ : ∀ r t, Q r t → r = some a) : Reaches env p a := by
  obtain ⟨t, r, he, henv⟩ := exists_exec total p
  exact ⟨t, hQ r t (h.exec he) ▸ he, henv⟩

include total in
theorem Breaks.bind (hp : Breaks A env p) (f : α → Prog S β) :
    Breaks A env (p >>= f) := by
  obtain ⟨t, r, he, henv, hbad⟩ := hp
  cases r with
  | none => exact ⟨t, none, exec_bind.2 (Or.inr ⟨he, rfl⟩), henv, hbad⟩
  | some a =>
    obtain ⟨u, r, hu, henv'⟩ := exists_exec total (f a)
    refine ⟨t ++ u, r, exec_bind.2 (Or.inl ⟨a, t, u, rfl, he, hu⟩),
      List.forall_mem_append.mpr ⟨henv, henv'⟩, fun m hm => ?_⟩
    exact hbad m ((A.accepts_append m t u).mp hm).1

include total in
theorem Breaks.each (hf : ∀ x ∈ xs, Reaches env (f x) ()) {x : β} (hx : x ∈ xs)
    (h : Breaks A env (f x)) : Breaks A env (Prog.each xs f) := by
  induction xs with
  | nil => cases hx
  | cons y ys ih =>
    rcases List.mem_cons.mp hx with rfl | hx
    · exact Breaks.bind total h _
    · exact Reaches.breaks (hf y List.mem_cons_self)
        (ih (fun z hz => hf z (List.mem_cons_of_mem _ hz)) hx)

end Total

end Assumption

end AtomicPrograms
