import Mathlib.Data.List.Induction

/-! # Runs of a labelled step relation

The log of a run is the list of its events in order. An invariant may speak of the log
together with the state; a guard restricts the steps of a run. -/
namespace LabelledRuns

variable {S E : Type} {step : S → E → S → Prop} {s u v : S} {e : E} {l m : List E}

inductive Run (step : S → E → S → Prop) (s : S) : List E → S → Prop where
  | nil : Run step s [] s
  | snoc {l : List E} {u v : S} {e : E} : Run step s l u → step u e v → Run step s (l ++ [e]) v

def Guarded (step : S → E → S → Prop) (guard : S → E → Prop) (s : S) (e : E) (u : S) : Prop :=
  guard s e ∧ step s e u

theorem Run.single (h : step s e u) : Run step s [e] u := Run.nil.snoc h

theorem Run.append (h : Run step s l u) (h' : Run step u m v) : Run step s (l ++ m) v := by
  induction h' with
  | nil => rwa [List.append_nil]
  | snoc _ hstep ih =>
    rw [← List.append_assoc]
    exact ih.snoc hstep

theorem Run.cons (h : step s e u) (h' : Run step u l v) : Run step s (e :: l) v :=
  (Run.single h).append h'

theorem Run.mono {step' : S → E → S → Prop} (h : Run step s l u)
    (himp : ∀ s e u, step s e u → step' s e u) : Run step' s l u := by
  induction h with
  | nil => exact .nil
  | snoc _ hstep ih => exact ih.snoc (himp _ _ _ hstep)

variable {guard : S → E → Prop}

theorem Run.of_guarded (h : Run (Guarded step guard) s l u) :
    Run step s l u :=
  h.mono fun _ _ _ hstep => hstep.2

theorem Run.guarded (h : Run step s l u) (hguard : ∀ e ∈ l, ∀ s, guard s e) :
    Run (Guarded step guard) s l u := by
  induction h with
  | nil => exact .nil
  | @snoc l u v e _ hstep ih =>
    have hlast : e ∈ l ++ [e] := List.mem_append_right _ (List.mem_singleton_self e)
    exact (ih fun a ha => hguard a (List.mem_append_left _ ha)).snoc ⟨hguard e hlast u, hstep⟩

theorem Run.events {P : E → Prop} (h : Run (Guarded step guard) s l u) (hP : ∀ s e, guard s e → P e)
    : ∀ e ∈ l, P e := by
  induction h with
  | nil => exact List.forall_mem_nil _
  | snoc _ hstep ih =>
    refine List.forall_mem_append.mpr ⟨ih, List.forall_mem_singleton.mpr ?_⟩
    exact hP _ _ hstep.1

theorem run_nil : Run step s [] u ↔ u = s := by
  constructor
  · intro h
    generalize hl : ([] : List E) = l at h
    cases h with
    | nil => rfl
    | snoc => simp at hl
  · intro h
    exact h ▸ .nil

theorem run_snoc : Run step s (l ++ [e]) v ↔ ∃ u, Run step s l u ∧ step u e v := by
  constructor
  · intro h
    generalize hl : l ++ [e] = l' at h
    cases h with
    | nil => simp at hl
    | snoc hrun hstep =>
      obtain ⟨rfl, he⟩ := List.append_inj' hl rfl
      obtain rfl := List.singleton_inj.mp he
      exact ⟨_, hrun, hstep⟩
  · rintro ⟨u, hrun, hstep⟩
    exact hrun.snoc hstep

theorem run_append : Run step s (l ++ m) v ↔ ∃ u, Run step s l u ∧ Run step u m v := by
  constructor
  · intro h
    induction m using List.reverseRecOn generalizing v with
    | nil => exact ⟨v, List.append_nil l ▸ h, .nil⟩
    | append_singleton m e ih =>
      rw [← List.append_assoc] at h
      obtain ⟨w, hrun, hstep⟩ := run_snoc.mp h
      obtain ⟨u, hl, hm⟩ := ih hrun
      exact ⟨u, hl, hm.snoc hstep⟩
  · rintro ⟨u, hl, hm⟩
    exact hl.append hm

theorem run_cons : Run step s (e :: l) v ↔ ∃ u, step s e u ∧ Run step u l v := by
  rw [← List.singleton_append, run_append]
  constructor
  · rintro ⟨u, he, hl⟩
    obtain ⟨w, hw, hstep⟩ := (run_snoc (l := [])).mp he
    exact ⟨u, run_nil.mp hw ▸ hstep, hl⟩
  · rintro ⟨u, hstep, hl⟩
    exact ⟨u, .single hstep, hl⟩

theorem Run.invariant {I : List E → S → Prop} (h : Run step s l u) (start : I [] s)
    (keep : ∀ l u e v, I l u → step u e v → I (l ++ [e]) v) : I l u := by
  induction h with
  | nil => exact start
  | snoc _ hstep ih => exact keep _ _ _ _ ih hstep

theorem Run.preserves {I : S → Prop} (h : Run step s l u) (start : I s)
    (keep : ∀ u e v, I u → step u e v → I v) : I u :=
  h.invariant start fun _ u e v hI hstep => keep u e v hI hstep

section Moves

variable {M : Type} (next : S → M → Option (E × S))

def playMoves : S → List M → List E × S
  | s, [] => ([], s)
  | s, move :: rest =>
    match next s move with
    | some (e, u) => (e :: (playMoves u rest).1, (playMoves u rest).2)
    | none => ([], s)

theorem run_playMoves (h : ∀ s move e u, next s move = some (e, u) → step s e u) (s : S)
    (moves : List M) : Run step s (playMoves next s moves).1 (playMoves next s moves).2 := by
  induction moves generalizing s with
  | nil => exact .nil
  | cons move rest ih =>
    unfold playMoves
    split
    · rename_i e u hnext
      exact .cons (h s move e u hnext) (ih u)
    · exact .nil

def guardMoves (guard : S → E → Prop) [∀ s e, Decidable (guard s e)] (s : S) (move : M) :
    Option (E × S) :=
  (next s move).filter fun x => guard s x.1

theorem guarded_guardMoves [∀ s e, Decidable (guard s e)]
    (h : ∀ s move e u, next s move = some (e, u) → step s e u) (s : S) (move : M) (e : E) (u : S)
    (hnext : guardMoves next guard s move = some (e, u)) : Guarded step guard s e u := by
  obtain ⟨hmove, hguard⟩ := Option.filter_eq_some_iff.mp hnext
  exact ⟨of_decide_eq_true hguard, h s move e u hmove⟩

end Moves

end LabelledRuns
