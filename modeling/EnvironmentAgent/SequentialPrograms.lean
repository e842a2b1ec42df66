import EnvironmentAgent.AtomicPrograms
import Mathlib.Logic.Relation

/-! # Programs that run alone

A program whose operations are answered by a world that nothing else changes. -/
namespace SequentialPrograms

open AtomicPrograms

variable {S : Signature} {W α β C : Type}

abbrev Action (S : Signature) (W : Type) := (o : S.Op) → W → S.Ans o → W → Prop

inductive Performs (act : Action S W) : Prog S α → W → Option α → W → Prop where
  | ret (a : α) (w : W) : Performs act (.ret a) w (some a) w
  | raise (w : W) : Performs act .raise w none w
  | call {o : S.Op} {k : S.Ans o → Prog S α} {x : S.Ans o} {w v u : W} {r : Option α}
      (ha : act o w x v) (hk : Performs act (k x) v r u) : Performs act (.call o k) w r u

def Ensures (act : Action S W) : Prog S α → W → (Option α → W → Prop) → Prop
  | .ret a, w, Q => Q (some a) w
  | .raise, w, Q => Q none w
  | .call o k, w, Q => ∀ x v, act o w x v → Ensures act (k x) v Q

def Allows (act : Action S W) : Prog S α → W → (Option α → W → Prop) → Prop
  | .ret a, w, Q => Q (some a) w
  | .raise, w, Q => Q none w
  | .call o k, w, Q => ∃ x v, act o w x v ∧ Allows act (k x) v Q

variable {act : Action S W} {w : W}

variable {p : Prog S α} {Q : Option α → W → Prop}

theorem ensures_iff :
    Ensures act p w Q ↔ ∀ r u, Performs act p w r u → Q r u := by
  induction p generalizing w with
  | ret a =>
    constructor
    · intro h r u hp
      cases hp
      exact h
    · intro h
      exact h _ _ (.ret a w)
  | raise =>
    constructor
    · intro h r u hp
      cases hp
      exact h
    · intro h
      exact h _ _ (.raise w)
  | call o k ih =>
    constructor
    · intro h r u hp
      cases hp with
      | call ha hk => exact (ih _).mp (h _ _ ha) r u hk
    · intro h x v ha
      exact (ih x).mpr fun r u hk => h r u (.call ha hk)

theorem allows_iff :
    Allows act p w Q ↔ ∃ r u, Performs act p w r u ∧ Q r u := by
  induction p generalizing w with
  | ret a =>
    constructor
    · intro h
      exact ⟨_, _, .ret a w, h⟩
    · rintro ⟨r, u, hp, h⟩
      cases hp
      exact h
  | raise =>
    constructor
    · intro h
      exact ⟨_, _, .raise w, h⟩
    · rintro ⟨r, u, hp, h⟩
      cases hp
      exact h
  | call o k ih =>
    constructor
    · rintro ⟨x, v, ha, hk⟩
      obtain ⟨r, u, hp, h⟩ := (ih x).mp hk
      exact ⟨r, u, .call ha hp, h⟩
    · rintro ⟨r, u, hp, h⟩
      cases hp with
      | call ha hk => exact ⟨_, _, ha, (ih _).mpr ⟨r, u, hk, h⟩⟩

variable {u : W}

theorem Performs.mono {act' : Action S W} {r : Option α} (h : Performs act p w r u)
    (hact : ∀ o v x v', act o v x v' → act' o v x v') :
    Performs act' p w r u := by
  induction h with
  | ret a w => exact .ret a w
  | raise w => exact .raise w
  | call ha _ ih => exact .call (hact _ _ _ _ ha) ih

theorem Ensures.mono {R : Option α → W → Prop} (h : Ensures act p w Q) (hqr : ∀ r u, Q r u → R r u)
    : Ensures act p w R :=
  ensures_iff.mpr fun r u hp => hqr r u (ensures_iff.mp h r u hp)

theorem Allows.mono {R : Option α → W → Prop} (h : Allows act p w Q) (hqr : ∀ r u, Q r u → R r u) :
    Allows act p w R := by
  obtain ⟨r, u, hp, hq⟩ := allows_iff.mp h
  exact allows_iff.mpr ⟨r, u, hp, hqr r u hq⟩

theorem allows_perform_bind {o : S.Op} {f : S.Ans o → Prog S β} {Q : Option β → W → Prop} :
    Allows act (Prog.perform o >>= f) w Q ↔ ∃ x v, act o w x v ∧ Allows act (f x) v Q := Iff.rfl

theorem ensures_bind {f : α → Prog S β} {Q : Option β → W → Prop} :
    Ensures act (p >>= f) w Q ↔
      Ensures act p w (andThen Q fun a v => Ensures act (f a) v Q) := by
  change Ensures act (p.bind f) w Q ↔ _
  induction p generalizing w with
  | ret a => exact Iff.rfl
  | raise => exact Iff.rfl
  | call o k ih => exact forall_congr' fun x => forall_congr' fun v => imp_congr_right fun _ => ih x

theorem allows_bind {f : α → Prog S β} {Q : Option β → W → Prop} :
    Allows act (p >>= f) w Q ↔ Allows act p w (andThen Q fun a v => Allows act (f a) v Q) := by
  change Allows act (p.bind f) w Q ↔ _
  induction p generalizing w with
  | ret a => exact Iff.rfl
  | raise => exact Iff.rfl
  | call o k ih => exact exists_congr fun x => exists_congr fun v => and_congr_right fun _ => ih x

variable {P : S.Op → Prop}

theorem Ensures.of_uses {R : W → W → Prop} (h : p.Uses P) (hrefl : ∀ v, R v v)
    (htrans : ∀ u v v', R u v → R v v' → R u v') (hact : ∀ o, P o → ∀ v x u, act o v x u → R v u) :
    Ensures act p w fun _ u => R w u := by
  induction p generalizing w with
  | ret a => exact hrefl w
  | raise => exact hrefl w
  | call o k ih =>
    intro x v ha
    exact (ih x (h.2 x)).mono fun _ u hu => htrans _ _ _ (hact o h.1 w x v ha) hu

variable {I : W → Prop} {f : β → Prog S Unit} {xs : List β}

theorem Ensures.each_mem {P : β → W → Prop}
    (step : ∀ x ∈ xs, ∀ v, I v → Ensures act (f x) v fun r u =>
      r = some () ∧ I u ∧ P x u ∧ ∀ y, P y v → P y u) (h : I w) :
    Ensures act (Prog.each xs f) w fun r u =>
      r = some () ∧ I u ∧ (∀ x ∈ xs, P x u) ∧ ∀ y, P y w → P y u := by
  induction xs generalizing w with
  | nil => exact ⟨rfl, h, List.forall_mem_nil _, fun _ hy => hy⟩
  | cons x xs ih =>
    apply (ensures_bind (p := f x)).mpr
    apply (step x List.mem_cons_self w h).mono
    intro r v hboth
    obtain ⟨hr, hv, hx, hkept⟩ := hboth
    subst hr
    apply (ih (fun y hy => step y (List.mem_cons_of_mem x hy)) hv).mono
    intro r u hboth
    obtain ⟨hr, hu, hall, hkept'⟩ := hboth
    exact ⟨hr, hu, List.forall_mem_cons.mpr ⟨hkept' x hx, hall⟩,
      fun y hy => hkept' y (hkept y hy)⟩

theorem Allows.each_of_mem {x : β} {Q : W → Prop} (hx : x ∈ xs)
    (skip : ∀ y v, Allows act (f y) v fun r u => r = some () ∧ u = v)
    (h : Allows act (f x) w fun r u => r = some () ∧ Q u) :
    Allows act (Prog.each xs f) w fun _ u => Q u := by
  have hskips : ∀ ys : List β, ∀ v, Q v → Allows act (Prog.each ys f) v fun _ u => Q u := by
    intro ys
    induction ys with
    | nil => exact fun v hv => hv
    | cons y ys ih =>
      intro v hv
      apply (allows_bind (p := f y)).mpr
      apply (skip y v).mono
      rintro r u ⟨rfl, rfl⟩
      exact ih u hv
  induction xs with
  | nil => cases hx
  | cons y ys ih =>
    apply (allows_bind (p := f y)).mpr
    rcases List.mem_cons.mp hx with rfl | hx
    · apply h.mono
      rintro r u ⟨rfl, hu⟩
      exact hskips ys u hu
    · apply (skip y w).mono
      rintro r u ⟨rfl, rfl⟩
      exact ih hx

def Along (act : Action S W) (R : W → W → Prop) : Prog S α → W → (Option α → W → Prop) → Prop
  | .ret a, w, Q => Q (some a) w
  | .raise, w, Q => Q none w
  | .call o k, w, Q => ∀ x v, act o w x v → R w v ∧ Along act R (k x) v Q

variable {R : W → W → Prop}

theorem Along.ensures (h : Along act R p w Q) :
    Ensures act p w Q := by
  induction p generalizing w with
  | ret a => exact h
  | raise => exact h
  | call o k ih => exact fun x v ha => ih x (h x v ha).2

theorem Along.mono {R' : W → W → Prop} {Q' : Option α → W → Prop} (h : Along act R p w Q)
    (hr : ∀ v u, R v u → R' v u) (hq : ∀ r u, Q r u → Q' r u) :
    Along act R' p w Q' := by
  induction p generalizing w with
  | ret a => exact hq _ _ h
  | raise => exact hq _ _ h
  | call o k ih =>
    intro x v ha
    obtain ⟨hstep, hrest⟩ := h x v ha
    exact ⟨hr w v hstep, ih x hrest⟩

theorem Along.and_ensures {Q' : Option α → W → Prop} (h : Along act R p w Q)
    (h' : Ensures act p w Q') : Along act R p w fun r u => Q r u ∧ Q' r u := by
  induction p generalizing w with
  | ret a => exact ⟨h, h'⟩
  | raise => exact ⟨h, h'⟩
  | call o k ih =>
    intro x v ha
    obtain ⟨hr, hrest⟩ := h x v ha
    exact ⟨hr, ih x hrest (h' x v ha)⟩

theorem along_perform_bind {o : S.Op} {f : S.Ans o → Prog S β} {Q : Option β → W → Prop} :
    Along act R (Prog.perform o >>= f) w Q ↔
      ∀ x v, act o w x v → R w v ∧ Along act R (f x) v Q := Iff.rfl

theorem along_bind {f : α → Prog S β} {Q : Option β → W → Prop} :
    Along act R (p >>= f) w Q ↔ Along act R p w (andThen Q fun a v => Along act R (f a) v Q) := by
  change Along act R (p.bind f) w Q ↔ _
  induction p generalizing w with
  | ret a => exact Iff.rfl
  | raise => exact Iff.rfl
  | call o k ih =>
    exact forall_congr' fun x => forall_congr' fun v => imp_congr_right fun _ =>
      and_congr_right fun _ => ih x

theorem along_ite {c : Prop} [Decidable c] {q : Prog S α} :
    Along act R (if c then p else q) w Q ↔
      (c → Along act R p w Q) ∧ (¬ c → Along act R q w Q) := by
  by_cases h : c <;> simp [h]

theorem Along.each (step : ∀ x ∈ xs, ∀ v, I v → Along act R (f x) v fun r u => r = some () ∧ I u)
    (h : I w) :
    Along act R (Prog.each xs f) w fun r u => r = some () ∧ I u := by
  induction xs generalizing w with
  | nil => exact ⟨rfl, h⟩
  | cons x xs ih =>
    apply (along_bind (p := f x)).mpr
    apply (step x List.mem_cons_self w h).mono (fun _ _ hr => hr)
    intro r u hboth
    obtain ⟨hr, hu⟩ := hboth
    subst hr
    exact ih (fun y hy => step y (List.mem_cons_of_mem x hy)) hu

theorem Along.of_uses (h : p.Uses P) (hact : ∀ o, P o → ∀ v x u, act o v x u → R v u)
    (he : Ensures act p w Q) :
    Along act R p w Q := by
  induction p generalizing w with
  | ret a => exact he
  | raise => exact he
  | call o k ih =>
    intro x v ha
    exact ⟨hact o h.1 w x v ha, ih x (h.2 x) (he x v ha)⟩

theorem Along.of_keeps (h : p.Uses P) (hact : ∀ o, P o → ∀ v x u, act o v x u → I v → I u)
    (hi : I w) :
    Along act (fun v u => I v → I u) p w fun _ u => I u := by
  induction p generalizing w with
  | ret a => exact hi
  | raise => exact hi
  | call o k ih =>
    intro x v ha
    have hstep := hact o h.1 w x v ha
    exact ⟨hstep, ih x (h.2 x) (hstep hi)⟩

inductive Stops (act : Action S W) : Prog S α → W → W → Prop where
  | here (p : Prog S α) (w : W) : Stops act p w w
  | later {o : S.Op} {k : S.Ans o → Prog S α} {x : S.Ans o} {w v u : W}
      (ha : act o w x v) (hk : Stops act (k x) v u) : Stops act (.call o k) w u

def tagged (S : Signature) (C : Type) : Signature := ⟨C × S.Op, fun o => S.Ans o.2⟩

def tag (c : C) : Prog S α → Prog (tagged S C) α
  | .ret a => .ret a
  | .raise => .raise
  | .call o k => .call (c, o) fun x => tag c (k x)

theorem along_tag {act : Action (tagged S C) W} {c : C} :
    Along act R (tag c p) w Q ↔ Along (fun o => act (c, o)) R p w Q := by
  induction p generalizing w with
  | ret a => exact Iff.rfl
  | raise => exact Iff.rfl
  | call o k ih =>
    exact forall_congr' fun x => forall_congr' fun v => imp_congr_right fun _ =>
      and_congr_right fun _ => ih x

inductive Calls (act : Action S W) (body : C → Prog S Unit) (guard : C → W → Prop) :
    W → List C → W → Prop where
  | nil (w : W) : Calls act body guard w [] w
  | snoc {w v u : W} {cs : List C} {c : C} {r : Option Unit} (h : Calls act body guard w cs v)
      (hc : guard c v) (hp : Performs act (body c) v r u) : Calls act body guard w (cs ++ [c]) u

variable {cs : List C}

theorem Calls.invariant {body : C → Prog S Unit} {guard : C → W → Prop}
    (h : Calls act body guard w cs u) (start : I w)
    (step : ∀ c v, I v → guard c v → Ensures act (body c) v fun _ u => I u) : I u := by
  induction h with
  | nil => exact start
  | snoc _ hc hp ih => exact ensures_iff.mp (step _ _ ih hc) _ _ hp

theorem Calls.map {D : Type} {body : C → Prog S Unit} {guard : C → W → Prop}
    {body' : D → Prog S Unit} {guard' : D → W → Prop} (f : C → D)
    (hbody : ∀ c, body' (f c) = body c) (hguard : ∀ c v, guard c v → guard' (f c) v)
    (h : Calls act body guard w cs u) : Calls act body' guard' w (cs.map f) u := by
  induction h with
  | nil => exact .nil _
  | @snoc v u _ c r _ hc hp ih =>
    rw [List.map_append]
    exact ih.snoc (c := f c) (hguard c v hc) (hbody c ▸ hp)

/-- A call starts when the previous one has ended; one that `cuts` starts at any time, and what
was left of the other is dropped. -/
inductive Moves (act : Action S W) (body : C → Prog S Unit) (guard : C → W → Prop)
    (cuts : C → Prop) : Prog S Unit × W → Prog S Unit × W → Prop where
  | op {o : S.Op} {k : S.Ans o → Prog S Unit} {x : S.Ans o} {w v : W} (ha : act o w x v) :
      Moves act body guard cuts (.call o k, w) (k x, v)
  | start {p : Prog S Unit} {w : W} (c : C) (hp : Ended p ∨ cuts c) (hc : guard c w) :
      Moves act body guard cuts (p, w) (body c, w)

variable {body : C → Prog S Unit} {guard : C → W → Prop} {cuts : C → Prop}

abbrev Reached (act : Action S W) (body : C → Prog S Unit) (guard : C → W → Prop)
    (cuts : C → Prop) (w : W) : Prog S Unit × W → Prop :=
  Relation.ReflTransGen (Moves act body guard cuts) (.ret (), w)

theorem reached_performs {p : Prog S Unit} {r : Option Unit} {c₀ : Prog S Unit × W}
    (h : Performs act p w r u) (hr : Relation.ReflTransGen (Moves act body guard cuts) c₀ (p, w)) :
    ∃ q, Ended q ∧ Relation.ReflTransGen (Moves act body guard cuts) c₀ (q, u) := by
  induction h with
  | ret a w => exact ⟨.ret a, trivial, hr⟩
  | raise w => exact ⟨.raise, trivial, hr⟩
  | call ha _ ih => exact ih (hr.tail (.op ha))

theorem Calls.reached (h : Calls act body guard w cs u) (cuts : C → Prop) :
    ∃ p, Ended p ∧ Reached act body guard cuts w (p, u) := by
  induction h with
  | nil => exact ⟨.ret (), trivial, .refl⟩
  | snoc _ hc hp ih =>
    obtain ⟨p, hended, hr⟩ := ih
    exact reached_performs hp (hr.tail (.start _ (Or.inl hended) hc))

theorem Reached.along {J : W → Prop} {p : Prog S Unit} (h : Reached act body guard cuts w (p, u))
    (start : I w) (weaken : ∀ v, I v → J v) (keeps : ∀ v v', R v v' → J v → J v')
    (step : ∀ c v, I v ∨ cuts c ∧ J v → guard c v → Along act R (body c) v fun _ v' => I v') :
    J u ∧ Along act R p u fun _ v => I v := by
  have hall : ∀ c : Prog S Unit × W, Reached act body guard cuts w c →
      J c.2 ∧ Along act R c.1 c.2 fun _ v => I v := by
    intro c hc
    induction hc with
    | refl => exact ⟨weaken w start, start⟩
    | tail _ hmove ih =>
      obtain ⟨hj, halong⟩ := ih
      cases hmove with
      | op ha =>
        obtain ⟨hr, hrest⟩ := halong _ _ ha
        exact ⟨keeps _ _ hr hj, hrest⟩
      | @start p v c hp hc =>
        refine ⟨hj, step c v ?_ hc⟩
        rcases hp with hended | hcut
        · left
          cases p with
          | ret a => exact halong
          | raise => exact halong
          | call o k => exact False.elim hended
        · exact Or.inr ⟨hcut, hj⟩
  exact hall (p, u) h

theorem Along.of_ended {p : Prog S Unit} (hp : Ended p) (h : Along act R p u fun _ v => I v) :
    I u := by
  cases p with
  | ret a => exact h
  | raise => exact h
  | call o k => exact False.elim hp

end SequentialPrograms
