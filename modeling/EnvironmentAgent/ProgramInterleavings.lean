import EnvironmentAgent.AtomicPrograms
import Mathlib.Data.List.Induction

/-! # Interleaved programs over a shared world

Threads take turns, one atomic operation each. The world decides which answers an operation may get
and how it changes; an operation may also start further threads. -/
namespace ProgramInterleavings

open AtomicPrograms

structure Semantics (S : Signature) (W α : Type) where
  act : (o : S.Op) → W → S.Ans o → W → Prop
  spawn : Event S → List (Prog S α)

structure Config (S : Signature) (W α : Type) where
  threads : List (Prog S α)
  world : W

abbrev Log (S : Signature) := List (ℕ × Event S)

variable {S : Signature} {W α M : Type}

inductive Step (sem : Semantics S W α) : Config S W α → ℕ × Event S → Config S W α → Prop where
  | mk {c : Config S W α} {i : ℕ} {o : S.Op} {k : S.Ans o → Prog S α} {x : S.Ans o} {w : W}
      (hi : c.threads[i]? = some (.call o k)) (ha : sem.act o c.world x w) :
      Step sem c (i, ⟨o, x⟩) ⟨c.threads.set i (k x) ++ sem.spawn ⟨o, x⟩, w⟩

inductive Run (sem : Semantics S W α) (c : Config S W α) : Log S → Config S W α → Prop where
  | nil : Run sem c [] c
  | snoc {l : Log S} {d u : Config S W α} {e : ℕ × Event S} :
      Run sem c l d → Step sem d e u → Run sem c (l ++ [e]) u

def eventsOf (i : ℕ) (l : Log S) : List (Event S) :=
  l.filterMap fun e => if e.1 = i then some e.2 else none

@[simp] theorem eventsOf_nil (i : ℕ) : eventsOf i ([] : Log S) = [] := rfl
@[simp] theorem eventsOf_append (i : ℕ) (l u : Log S) :
    eventsOf i (l ++ u) = eventsOf i l ++ eventsOf i u := List.filterMap_append
@[simp] theorem eventsOf_own (i : ℕ) (e : Event S) : eventsOf i [(i, e)] = [e] := by
  simp [eventsOf]
theorem eventsOf_other {i j : ℕ} (h : j ≠ i) (e : Event S) : eventsOf i [(j, e)] = [] := by
  simp [eventsOf, h]

theorem mem_eventsOf {i : ℕ} {e : Event S} {l : Log S} : e ∈ eventsOf i l ↔ (i, e) ∈ l := by
  simp [eventsOf]

def Quiescent (c : Config S W α) : Prop := ∀ p ∈ c.threads, Ended p

instance (c : Config S W α) : Decidable (Quiescent c) :=
  inferInstanceAs (Decidable (∀ p ∈ c.threads, Ended p))

theorem Step.length_le {sem : Semantics S W α} {c d : Config S W α} {e : ℕ × Event S}
    (h : Step sem c e d) : c.threads.length ≤ d.threads.length := by
  cases h
  simp

theorem Step.thread {sem : Semantics S W α} {c d : Config S W α} {i j : ℕ} {e : Event S}
    (h : Step sem c (i, e) d) (hj : j < c.threads.length) :
    (j ≠ i → d.threads[j]? = c.threads[j]?) ∧
    (j = i → ∃ k, c.threads[j]? = some (.call e.1 k) ∧ d.threads[j]? = some (k e.2)) := by
  cases h with
  | mk hi ha =>
    constructor
    · intro hne
      rw [List.getElem?_append_left (by simpa using hj), List.getElem?_set_ne (Ne.symm hne)]
    · rintro rfl
      refine ⟨_, hi, ?_⟩
      rw [List.getElem?_append_left (by simpa using hj), List.getElem?_set_self hj]

theorem Step.spawned {sem : Semantics S W α} {c d : Config S W α} {e : ℕ × Event S}
    (h : Step sem c e d) {j : ℕ} {p : Prog S α} (hj : c.threads.length ≤ j)
    (hp : d.threads[j]? = some p) : p ∈ sem.spawn e.2 := by
  cases h
  rw [List.getElem?_append_right (by simpa using hj)] at hp
  exact List.mem_of_getElem? hp

theorem Step.moves {sem : Semantics S W α} {c d : Config S W α} {e : ℕ × Event S}
    (h : Step sem c e d) : e.1 < c.threads.length := by
  cases h with
  | mk hi ha => exact (List.getElem?_eq_some_iff.mp hi).1

theorem Run.events_bound {sem : Semantics S W α} {c d : Config S W α} {l : Log S}
    (h : Run sem c l d) : ∀ e ∈ l, e.1 < d.threads.length := by
  induction h with
  | nil => simp
  | snoc _ hs ih =>
    intro e he
    rcases List.mem_append.mp he with he | he
    · exact Nat.lt_of_lt_of_le (ih e he) hs.length_le
    · obtain rfl := List.mem_singleton.mp he
      exact Nat.lt_of_lt_of_le hs.moves hs.length_le

theorem Run.no_events {sem : Semantics S W α} {c d : Config S W α} {l : Log S}
    (h : Run sem c l d) {j : ℕ} (hj : d.threads.length ≤ j) : eventsOf j l = [] := by
  refine List.eq_nil_iff_forall_not_mem.mpr fun e he => ?_
  have hb : j < d.threads.length := h.events_bound _ (mem_eventsOf.mp he)
  omega

theorem Run.follows_at {sem : Semantics S W α} {c d : Config S W α} {l : Log S}
    (h : Run sem c l d) {A : Monitor S M} {Q : Option α → M → Prop} {i : ℕ} {p : Prog S α}
    {m : M} (hi : c.threads[i]? = some p) (hf : Follows A p m Q) :
    A.Accepts m (eventsOf i l) ∧
      ∃ q, d.threads[i]? = some q ∧ Follows A q (A.after m (eventsOf i l)) Q := by
  induction h with
  | nil => exact ⟨trivial, p, hi, hf⟩
  | @snoc l d u e hr hs ih =>
    obtain ⟨hacc, q, hq, hfq⟩ := ih
    obtain ⟨j, e⟩ := e
    have hlt : i < d.threads.length := (List.getElem?_eq_some_iff.mp hq).1
    by_cases hji : i = j
    · subst hji
      obtain ⟨k, hk, hu⟩ := (hs.thread hlt).2 rfl
      obtain rfl : q = .call e.1 k := Option.some.inj (hq.symm.trans hk)
      refine ⟨?_, k e.2, hu, ?_⟩
      · rw [eventsOf_append, eventsOf_own, Monitor.accepts_append]
        exact ⟨hacc, hfq.1, trivial⟩
      · simpa using hfq.2 e.2
    · refine ⟨?_, q, by rw [(hs.thread hlt).1 hji]; exact hq, ?_⟩
      · simpa [eventsOf_other (Ne.symm hji)] using hacc
      · simpa [eventsOf_other (Ne.symm hji)] using hfq

theorem Run.follows_all {sem : Semantics S W α} {c d : Config S W α} {l : Log S}
    (h : Run sem c l d) {A : Monitor S M} {Q : Option α → M → Prop} {m : M}
    (hc : ∀ p ∈ c.threads, Follows A p m Q)
    (hsp : ∀ e, ∀ p ∈ sem.spawn e, Follows A p m Q) :
    ∀ i p, d.threads[i]? = some p → Follows A p (A.after m (eventsOf i l)) Q := by
  induction h with
  | nil => intro i p hp; exact hc p (List.mem_of_getElem? hp)
  | @snoc l d u e hr hs ih =>
    intro i p hp
    obtain ⟨j, e⟩ := e
    by_cases hlt : i < d.threads.length
    · by_cases hji : i = j
      · subst hji
        obtain ⟨k, hk, hu⟩ := (hs.thread hlt).2 rfl
        obtain rfl : k e.2 = p := Option.some.inj (hu.symm.trans hp)
        simpa using (ih i _ hk).2 e.2
      · have hpd : d.threads[i]? = some p := by rw [← (hs.thread hlt).1 hji]; exact hp
        simpa [eventsOf_other (Ne.symm hji)] using ih i p hpd
    · have hle : d.threads.length ≤ i := Nat.le_of_not_lt hlt
      have hj : j ≠ i := by have := hs.moves; dsimp only at this; omega
      rw [eventsOf_append, hr.no_events hle, eventsOf_other hj]
      exact hsp e p (hs.spawned hle hp)

theorem Run.length_eq {sem : Semantics S W α} {c d : Config S W α} {l : Log S}
    (h : Run sem c l d) (hspawn : ∀ e, sem.spawn e = []) :
    d.threads.length = c.threads.length := by
  induction h with
  | nil => rfl
  | snoc _ hs ih =>
    cases hs
    simpa [hspawn] using ih

theorem Run.last {sem : Semantics S W α} {c d : Config S W α} {l : Log S} {e : ℕ × Event S}
    (h : Run sem c (l ++ [e]) d) : ∃ u, Run sem c l u ∧ Step sem u e d := by
  generalize hl : l ++ [e] = full at h
  cases h with
  | nil => simp at hl
  | snoc hr hs =>
    obtain ⟨rfl, hlast⟩ := List.append_inj' hl rfl
    obtain rfl := List.singleton_inj.mp hlast
    exact ⟨_, hr, hs⟩

theorem Run.split {sem : Semantics S W α} {c d : Config S W α} {l l' : Log S}
    (h : Run sem c (l ++ l') d) : ∃ u, Run sem c l u ∧ Run sem u l' d := by
  induction l' using List.reverseRecOn generalizing d with
  | nil => exact ⟨d, by simpa using h, .nil⟩
  | append_singleton l' e ih =>
    rw [← List.append_assoc] at h
    obtain ⟨v, hr, hs⟩ := h.last
    obtain ⟨u, hu, huv⟩ := ih hr
    exact ⟨u, hu, huv.snoc hs⟩

theorem Step.add_threads {sem : Semantics S W α} {c d : Config S W α} {e : ℕ × Event S}
    (h : Step sem c e d) (hspawn : ∀ e, sem.spawn e = []) (ps : List (Prog S α)) :
    Step sem ⟨c.threads ++ ps, c.world⟩ e ⟨d.threads ++ ps, d.world⟩ := by
  cases h with
  | @mk i o k x w hi ha =>
    have hlt : i < c.threads.length := (List.getElem?_eq_some_iff.mp hi).1
    have hi' : (c.threads ++ ps)[i]? = some (.call o k) := by
      rw [List.getElem?_append_left hlt]
      exact hi
    have hstep : Step sem ⟨c.threads ++ ps, c.world⟩ (i, ⟨o, x⟩) _ := .mk hi' ha
    simpa [hspawn, List.set_append_left _ _ hlt] using hstep

theorem Run.add_threads {sem : Semantics S W α} {c d : Config S W α} {l : Log S}
    (h : Run sem c l d) (hspawn : ∀ e, sem.spawn e = []) (ps : List (Prog S α)) :
    Run sem ⟨c.threads ++ ps, c.world⟩ l ⟨d.threads ++ ps, d.world⟩ := by
  induction h with
  | nil => exact .nil
  | snoc _ hs ih => exact ih.snoc (hs.add_threads hspawn ps)

theorem Run.exec {sem : Semantics S W α} {c d : Config S W α} {l : Log S} (h : Run sem c l d)
    {i : ℕ} {p : Prog S α} (hi : c.threads[i]? = some p) :
    ∃ q, d.threads[i]? = some q ∧ ∀ t r, Exec q t r → Exec p (eventsOf i l ++ t) r := by
  induction h with
  | nil => exact ⟨p, hi, fun t r he => by simpa using he⟩
  | @snoc l d u e hr hs ih =>
    obtain ⟨q, hq, hexec⟩ := ih
    obtain ⟨j, e⟩ := e
    have hlt : i < d.threads.length := (List.getElem?_eq_some_iff.mp hq).1
    by_cases hij : i = j
    · subst hij
      obtain ⟨k, hk, hu⟩ := (hs.thread hlt).2 rfl
      obtain rfl : q = .call e.1 k := Option.some.inj (hq.symm.trans hk)
      refine ⟨k e.2, hu, fun t r he => ?_⟩
      simpa using hexec (e :: t) r (.call e.1 e.2 he)
    · refine ⟨q, ((hs.thread hlt).1 hij).trans hq, fun t r he => ?_⟩
      simpa [eventsOf_other (Ne.symm hij)] using hexec t r he

def Semantics.guarded (sem : Semantics S W α) (C : S.Op → W → Prop) : Semantics S W α where
  act o w x w' := C o w ∧ sem.act o w x w'
  spawn := sem.spawn

theorem Run.unguarded {sem : Semantics S W α} {C : S.Op → W → Prop} {c d : Config S W α}
    {l : Log S} (h : Run (sem.guarded C) c l d) : Run sem c l d := by
  induction h with
  | nil => exact .nil
  | snoc _ hs ih =>
    cases hs with
    | mk hi ha => exact ih.snoc (.mk hi ha.2)

def turn (f : Handler S W) (spawn : Event S → List (Prog S α)) (c : Config S W α) (i : ℕ) :
    Log S × Config S W α :=
  match c.threads[i]? with
  | some (.call o k) =>
    ([(i, ⟨o, (f o c.world).1⟩)],
      ⟨c.threads.set i (k (f o c.world).1) ++ spawn ⟨o, (f o c.world).1⟩, (f o c.world).2⟩)
  | _ => ([], c)

def play (f : Handler S W) (spawn : Event S → List (Prog S α)) (c : Config S W α) :
    List ℕ → Log S × Config S W α
  | [] => ([], c)
  | i :: schedule =>
    ((turn f spawn c i).1 ++ (play f spawn (turn f spawn c i).2 schedule).1,
      (play f spawn (turn f spawn c i).2 schedule).2)

theorem Run.trans {sem : Semantics S W α} {c d u : Config S W α} {l l' : Log S}
    (h : Run sem c l d) (h' : Run sem d l' u) : Run sem c (l ++ l') u := by
  induction h' with
  | nil => simpa using h
  | snoc _ hs ih => rw [← List.append_assoc]; exact ih.snoc hs

theorem run_turn {sem : Semantics S W α} {f : Handler S W}
    (hf : ∀ o w, sem.act o w (f o w).1 (f o w).2) (c : Config S W α) (i : ℕ) :
    Run sem c (turn f sem.spawn c i).1 (turn f sem.spawn c i).2 := by
  unfold turn
  split
  · rename_i o k hi
    exact Run.snoc .nil (.mk hi (hf o c.world))
  · exact .nil

theorem run_play {sem : Semantics S W α} {f : Handler S W}
    (hf : ∀ o w, sem.act o w (f o w).1 (f o w).2) (c : Config S W α) (schedule : List ℕ) :
    Run sem c (play f sem.spawn c schedule).1 (play f sem.spawn c schedule).2 := by
  induction schedule generalizing c with
  | nil => exact .nil
  | cons i schedule ih => exact (run_turn hf c i).trans (ih _)

def MeetsNext (C : S.Op → W → Prop) (c : Config S W α) (i : ℕ) : Prop :=
  match c.threads[i]? with
  | some (.call o _) => C o c.world
  | _ => True

instance (C : S.Op → W → Prop) [∀ o w, Decidable (C o w)] (c : Config S W α) (i : ℕ) :
    Decidable (MeetsNext C c i) :=
  match h : c.threads[i]? with
  | some (.call o _) => decidable_of_iff (C o c.world) (by simp [MeetsNext, h])
  | some (.ret _) => isTrue (by simp [MeetsNext, h])
  | some .raise => isTrue (by simp [MeetsNext, h])
  | none => isTrue (by simp [MeetsNext, h])

def Meets (C : S.Op → W → Prop) (f : Handler S W) (spawn : Event S → List (Prog S α))
    (c : Config S W α) : List ℕ → Prop
  | [] => True
  | i :: schedule => MeetsNext C c i ∧ Meets C f spawn (turn f spawn c i).2 schedule

instance Meets.decidable (C : S.Op → W → Prop) [∀ o w, Decidable (C o w)] (f : Handler S W)
    (spawn : Event S → List (Prog S α)) :
    (c : Config S W α) → (schedule : List ℕ) → Decidable (Meets C f spawn c schedule)
  | _, [] => isTrue trivial
  | c, i :: schedule =>
    have := Meets.decidable C f spawn (turn f spawn c i).2 schedule
    inferInstanceAs (Decidable (MeetsNext C c i ∧ Meets C f spawn (turn f spawn c i).2 schedule))

theorem run_play_of_meets {sem : Semantics S W α} {f : Handler S W} {C : S.Op → W → Prop}
    (hf : ∀ o w, C o w → sem.act o w (f o w).1 (f o w).2) {c : Config S W α}
    {schedule : List ℕ} (hC : Meets C f sem.spawn c schedule) :
    Run sem c (play f sem.spawn c schedule).1 (play f sem.spawn c schedule).2 := by
  induction schedule generalizing c with
  | nil => exact .nil
  | cons i schedule ih =>
    obtain ⟨hi, hrest⟩ := hC
    refine Run.trans ?_ (ih hrest)
    unfold turn
    unfold MeetsNext at hi
    match hthread : c.threads[i]? with
    | some (.call o k) =>
      rw [hthread] at hi
      exact Run.snoc .nil (.mk hthread (hf o c.world hi))
    | some (.ret a) => exact .nil
    | some .raise => exact .nil
    | none => exact .nil

theorem run_play_guarded {sem : Semantics S W α} {f : Handler S W}
    (hf : ∀ o w, sem.act o w (f o w).1 (f o w).2) {C : S.Op → W → Prop} {c : Config S W α}
    {schedule : List ℕ} (hC : Meets C f sem.spawn c schedule) :
    Run (sem.guarded C) c (play f sem.spawn c schedule).1 (play f sem.spawn c schedule).2 :=
  @run_play_of_meets _ _ _ (sem.guarded C) f C (fun o w h => ⟨h, hf o w⟩) c schedule hC

/-! ## Invariants over the local states

A monitor gives each thread a local state. What holds of the world and all local states
together is kept by a run when one monitored step keeps it. -/

def locals (A : Monitor S M) (m : M) (l : Log S) (i : ℕ) : M := A.after m (eventsOf i l)

theorem locals_snoc (A : Monitor S M) (m : M) (l : Log S) (i : ℕ) (e : Event S) :
    locals A m (l ++ [(i, e)]) =
      Function.update (locals A m l) i (A.next (locals A m l i) e) := by
  funext j
  by_cases hji : j = i
  · subst hji
    simp [locals]
  · simp [locals, eventsOf_other (Ne.symm hji), Function.update_of_ne hji]

theorem Run.invariant {sem : Semantics S W α} {c d : Config S W α} {l : Log S}
    (h : Run sem c l d) {A : Monitor S M} {Q : Option α → M → Prop} {m : M}
    (hc : ∀ p ∈ c.threads, Follows A p m Q)
    (hsp : ∀ e, ∀ p ∈ sem.spawn e, Follows A p m Q) {I : W → (ℕ → M) → Prop}
    (start : I c.world fun _ => m)
    (step : ∀ w ms i o x w', I w ms → A.allowed (ms i) o → sem.act o w x w' →
      I w' (Function.update ms i (A.next (ms i) ⟨o, x⟩))) :
    I d.world (locals A m l) := by
  induction h with
  | nil => exact start
  | @snoc l d u e hr hs ih =>
    obtain ⟨i, e⟩ := e
    have hf := hr.follows_all hc hsp
    cases hs with
    | mk hi ha =>
      rw [locals_snoc]
      exact step _ _ _ _ _ _ ih (hf _ _ hi).1 ha

end ProgramInterleavings
