import EnvironmentAgent.CoalescedOutput
import EnvironmentAgent.LabelledRuns
import Mathlib.Data.Finset.Erase
import Mathlib.Data.Finset.Insert
import Mathlib.Data.Finmap

/-! # The debouncer of the container and cluster monitors

`container/monitoring/debouncer.go` and `acmcluster/monitoring/debouncer.go`, with
`publishWithRetry` as their `publishFn`. The callback publishes the event of its timer outside the
lock, without a look at what was submitted since. Number `n` is the event, its timer and the
goroutine of its callback. -/
namespace TimerDebouncer

open CoalescedOutput LabelledRuns

variable {E : Type}

inductive Stage where
  | unmade
  | armed
  /-- The callback is before its locked section. -/
  | called
  /-- In `publisher.Publish`, or past the loop when there is no such attempt. -/
  | trying (attempt : ℕ)
  /-- In the backoff before the attempt. -/
  | waiting (attempt : ℕ)
  /-- `publishFn` has returned. -/
  | returned
  | ended
  deriving DecidableEq, Repr

def Stage.stop : Stage → Stage
  | .armed => .ended
  | stage => stage

def cancel (jobs : ℕ → Stage) (timer : Option ℕ) (n : ℕ) : Stage :=
  if timer = some n then (jobs n).stop else jobs n

inductive Stopping where
  | idle
  | waiting
  | returned
  deriving DecidableEq, Repr

/-- `submitted` and `published` are histories: the events that `Submit` did not ignore, and the
numbers of those that the publisher took. -/
structure Debouncer (E : Type) where
  timers : Finmap fun _ : String => ℕ
  stopped : Bool
  wg : Finset ℕ
  jobs : ℕ → Stage
  stopping : Stopping
  submitted : List (String × E)
  published : List ℕ

def newDebouncer : Debouncer E where
  timers := ∅
  stopped := false
  wg := ∅
  jobs := fun _ => .unmade
  stopping := .idle
  submitted := []
  published := []

namespace Debouncer

def move (d : Debouncer E) (n : ℕ) (stage : Stage) : Debouncer E :=
  { d with jobs := Function.update d.jobs n stage }

def submit (d : Debouncer E) (id : String) (event : E) : Debouncer E :=
  let n := d.submitted.length
  { d with
    timers := d.timers.insert id n
    jobs := Function.update (cancel d.jobs (d.timers.lookup id)) n .armed
    submitted := d.submitted ++ [(id, event)] }

def call (d : Debouncer E) (n : ℕ) (id : String) : Debouncer E :=
  if d.stopped then d.move n .ended
  else { d.move n (.trying 0) with timers := d.timers.erase id, wg := insert n d.wg }

def stop (d : Debouncer E) : Debouncer E :=
  { d with
    stopped := true
    jobs := fun n =>
      if ∃ id ∈ d.timers.keys, d.timers.lookup id = some n then (d.jobs n).stop else d.jobs n
    timers := ∅
    stopping := .waiting }

def owner (d : Debouncer E) (n : ℕ) : Option String := d.submitted[n]?.map Prod.fst

end Debouncer

inductive Action (E : Type) where
  | submit (id : String) (event : E)
  /-- `Submit` when stopped. -/
  | ignore (id : String) (event : E)
  | fire (n : ℕ)
  | call (n : ℕ)
  | publish (n : ℕ)
  | fail (n : ℕ)
  | backoff (n : ℕ)
  /-- The context is done during a backoff. -/
  | abandon (n : ℕ)
  /-- All attempts have failed. -/
  | drop (n : ℕ)
  | done (n : ℕ)
  | stop
  /-- `Stop` returns. -/
  | wait

def containerAttempts : ℕ := 5

def clusterAttempts (publishRetryMax : ℤ) : ℕ := (publishRetryMax + 1).toNat

/-- `attempts` is the number of attempts that `publishWithRetry` makes. -/
inductive Step (attempts : ℕ) : Debouncer E → Action E → Debouncer E → Prop where
  | submit {d : Debouncer E} (id : String) (event : E) (h : d.stopped = false) :
      Step attempts d (.submit id event) (d.submit id event)
  | ignore {d : Debouncer E} (id : String) (event : E) (h : d.stopped = true) :
      Step attempts d (.ignore id event) d
  | fire {d : Debouncer E} {n : ℕ} (h : d.jobs n = .armed) :
      Step attempts d (.fire n) (d.move n .called)
  | call {d : Debouncer E} {n : ℕ} {id : String} (h : d.jobs n = .called)
      (howner : d.owner n = some id) : Step attempts d (.call n) (d.call n id)
  | publish {d : Debouncer E} {n k : ℕ} (h : d.jobs n = .trying k) (hk : k < attempts) :
      Step attempts d (.publish n) { d.move n .returned with published := d.published ++ [n] }
  | fail {d : Debouncer E} {n k : ℕ} (h : d.jobs n = .trying k) (hk : k < attempts) :
      Step attempts d (.fail n)
        (d.move n (if k + 1 < attempts then .waiting (k + 1) else .trying (k + 1)))
  | backoff {d : Debouncer E} {n k : ℕ} (h : d.jobs n = .waiting k) :
      Step attempts d (.backoff n) (d.move n (.trying k))
  | abandon {d : Debouncer E} {n k : ℕ} (h : d.jobs n = .waiting k) :
      Step attempts d (.abandon n) (d.move n .returned)
  | drop {d : Debouncer E} {n k : ℕ} (h : d.jobs n = .trying k) (hk : attempts ≤ k) :
      Step attempts d (.drop n) (d.move n .returned)
  | done {d : Debouncer E} {n : ℕ} (h : d.jobs n = .returned) :
      Step attempts d (.done n) { d.move n .ended with wg := d.wg.erase n }
  | stop {d : Debouncer E} (h : d.stopping = .idle) : Step attempts d .stop d.stop
  | wait {d : Debouncer E} (h : d.stopping = .waiting) (hwg : d.wg = ∅) :
      Step attempts d .wait { d with stopping := .returned }

inductive Move (E : Type) where
  | submit (id : String) (event : E)
  /-- An attempt succeeds. -/
  | job (n : ℕ)
  /-- An attempt fails. -/
  | fail (n : ℕ)
  | stop

def Debouncer.next (attempts : ℕ) (d : Debouncer E) : Move E → Option (Action E × Debouncer E)
  | .submit id event =>
    if d.stopped then some (.ignore id event, d) else some (.submit id event, d.submit id event)
  | .job n =>
    match d.jobs n, d.owner n with
    | .armed, _ => some (.fire n, d.move n .called)
    | .called, some id => some (.call n, d.call n id)
    | .trying k, _ =>
      if k < attempts then
        some (.publish n, { d.move n .returned with published := d.published ++ [n] })
      else some (.drop n, d.move n .returned)
    | .waiting k, _ => some (.backoff n, d.move n (.trying k))
    | .returned, _ => some (.done n, { d.move n .ended with wg := d.wg.erase n })
    | _, _ => none
  | .fail n =>
    match d.jobs n with
    | .trying k =>
      if k < attempts then
        some (.fail n, d.move n (if k + 1 < attempts then .waiting (k + 1) else .trying (k + 1)))
      else none
    | .waiting _ => some (.abandon n, d.move n .returned)
    | _ => none
  | .stop =>
    match d.stopping with
    | .idle => some (.stop, d.stop)
    | .waiting => if d.wg = ∅ then some (.wait, { d with stopping := .returned }) else none
    | .returned => none

theorem step_next (attempts : ℕ) (d : Debouncer E) (move : Move E) (a : Action E)
    (d' : Debouncer E) (h : d.next attempts move = some (a, d')) : Step attempts d a d' := by
  cases move with
  | submit id event =>
    simp only [Debouncer.next] at h
    split at h
    · cases h
      exact .ignore id event ‹_›
    · rename_i hrunning
      cases h
      exact .submit id event (by simpa using hrunning)
  | job n =>
    simp only [Debouncer.next] at h
    split at h
    · cases h
      exact .fire ‹_›
    · cases h
      exact .call ‹_› ‹_›
    · split at h
      · cases h
        exact .publish ‹_› ‹_›
      · rename_i hk
        cases h
        exact .drop ‹_› (by omega)
    · cases h
      exact .backoff ‹_›
    · cases h
      exact .done ‹_›
    · cases h
  | fail n =>
    simp only [Debouncer.next] at h
    split at h
    · split at h
      · cases h
        exact .fail ‹_› ‹_›
      · cases h
    · cases h
      exact .abandon ‹_›
    · cases h
  | stop =>
    simp only [Debouncer.next] at h
    split at h
    · cases h
      exact .stop ‹_›
    · split at h
      · cases h
        exact .wait ‹_› ‹_›
      · cases h
    · cases h

namespace Debouncer

def submittedOf (d : Debouncer E) (id : String) : List ℕ :=
  (List.range d.submitted.length).filter (d.owner · = some id)

def publishedOf (d : Debouncer E) (id : String) : List ℕ :=
  d.published.filter (d.owner · = some id)

end Debouncer

def Quiescent (d : Debouncer E) : Prop := ∀ n, d.jobs n = .unmade ∨ d.jobs n = .ended

/-- No superseded event comes after a newer one, and what was submitted last is what was published
last once nothing is left to do. -/
structure LatestLast (d : Debouncer E) (id : String) : Prop where
  increasing : (d.publishedOf id).Pairwise (· < ·)
  last : Quiescent d → d.stopped = false →
    (d.publishedOf id).getLast? = (d.submittedOf id).getLast?

def First (d : Debouncer E) (n : ℕ) : Prop :=
  ∀ m < n, d.owner m = d.owner n → d.jobs m = .ended

instance (d : Debouncer E) (n : ℕ) : Decidable (First d n) := by
  unfold First
  infer_instance

/-- A timer fires only when those before it are through, and `publishWithRetry` does not give
up. -/
def Prompt (d : Debouncer E) : Action E → Prop
  | .fire n => First d n
  | .abandon _ | .drop _ => False
  | _ => True

instance (d : Debouncer E) (a : Action E) : Decidable (Prompt d a) := by
  cases a <;> unfold Prompt <;> infer_instance

def Running (stage : Stage) : Prop :=
  stage ≠ .unmade ∧ stage ≠ .armed ∧ stage ≠ .ended

structure Invariant (d : Debouncer E) : Prop where
  made : ∀ n, d.jobs n ≠ .unmade ↔ n < d.submitted.length
  timer : ∀ id n, d.timers.lookup id = some n → d.owner n = some id
  running : ∀ n, Running (d.jobs n) → First d n
  /-- What is published has left the loop, after everything before it. -/
  through : ∀ n ∈ d.published, (d.jobs n = .returned ∨ d.jobs n = .ended) ∧ First d n
  increasing : d.published.Pairwise fun m n => d.owner m = d.owner n → m < n
  /-- What has left the loop and is not published is superseded. -/
  kept : d.stopped = false → ∀ n, d.jobs n = .returned ∨ d.jobs n = .ended →
    n ∈ d.published ∨ ∃ m, n < m ∧ d.owner m = d.owner n

section Steps

variable {d d' : Debouncer E} {n : ℕ} {stage : Stage}

theorem owner_isSome : (d.owner n).isSome ↔ n < d.submitted.length := by
  simp [Debouncer.owner]

theorem Invariant.of_move (h : Invariant d) (hjobs : d'.jobs = Function.update d.jobs n stage)
    (hmade : d.jobs n ≠ .unmade) (hnew : stage ≠ .unmade) (hsubmitted : d'.submitted = d.submitted)
    (hpublished : d'.published = d.published) (hstopped : d'.stopped = d.stopped)
    (htimers : ∀ id m, d'.timers.lookup id = some m → d.timers.lookup id = some m)
    (hlive : d.jobs n ≠ .ended) (hfirst : Running stage → First d n)
    (hthrough : d.jobs n = .returned → stage = .ended)
    (hkept : d.stopped = false → stage = .returned ∨ stage = .ended → d.jobs n = .returned) :
    Invariant d' := by
  have howner : ∀ m, d'.owner m = d.owner m := fun m => by rw [Debouncer.owner, hsubmitted]; rfl
  have hjob : ∀ m, m ≠ n → d'.jobs m = d.jobs m := fun m hm => by
    rw [hjobs, Function.update_of_ne hm]
  have hown : d'.jobs n = stage := by rw [hjobs, Function.update_self]
  -- what had ended has ended
  have hFirst : ∀ m, First d m → First d' m := by
    intro m hm k hk hsame
    rw [howner, howner] at hsame
    have hended := hm k hk hsame
    by_cases heq : k = n
    · exact absurd (heq ▸ hended) hlive
    · rw [hjob k heq, hended]
  refine ⟨fun m => ?_, fun id m hm => ?_, fun m hm => ?_, fun m hm => ?_, ?_, fun hrun m hm => ?_⟩
  · rw [hsubmitted, ← h.made m]
    by_cases heq : m = n
    · subst heq
      exact iff_of_true (hown ▸ hnew) hmade
    · rw [hjob m heq]
  · rw [howner]
    exact h.timer id m (htimers id m hm)
  · by_cases heq : m = n
    · subst heq
      exact hFirst m (hfirst (hown ▸ hm))
    · exact hFirst m (h.running m (hjob m heq ▸ hm))
  · obtain ⟨hstage, hm⟩ := h.through m (hpublished ▸ hm)
    refine ⟨?_, hFirst m hm⟩
    by_cases heq : m = n
    · subst heq
      rcases hstage with hstage | hstage
      · exact .inr (hown.trans (hthrough hstage))
      · exact absurd hstage hlive
    · rwa [hjob m heq]
  · rw [hpublished]
    exact h.increasing.imp fun {a b} hab hsame => hab (by rwa [howner, howner] at hsame)
  · rw [hpublished]
    have hold : d.jobs m = .returned ∨ d.jobs m = .ended := by
      by_cases heq : m = n
      · subst heq
        exact .inl (hkept (hstopped ▸ hrun) (hown ▸ hm))
      · rwa [hjob m heq] at hm
    simpa only [howner] using h.kept (hstopped ▸ hrun) m hold

theorem invariant_call {id : String} (h : Invariant d) (hjob : d.jobs n = .called) :
    Invariant (d.call n id) := by
  have hfirst : First d n := h.running n (by simp [hjob, Running])
  unfold Debouncer.call
  split
  · rename_i hstopped
    exact h.of_move rfl (by simp [hjob]) (by simp) rfl rfl rfl (fun _ _ hm => hm) (by simp [hjob])
      (fun _ => hfirst) (by simp) (by simp [hstopped])
  · refine h.of_move rfl (by simp [hjob]) (by simp) rfl rfl rfl (fun other m hm => ?_)
      (by simp [hjob]) (fun _ => hfirst) (by simp [hjob]) (by simp)
    by_cases hother : other = id
    · subst hother
      simp at hm
    · rwa [Finmap.lookup_erase_ne hother] at hm

theorem invariant_publish {k : ℕ} (h : Invariant d) (hjob : d.jobs n = .trying k) :
    Invariant { d.move n .returned with published := d.published ++ [n] } := by
  have hfirst : First d n := h.running n (by simp [hjob, Running])
  have hFirst : ∀ m, First d m →
      First { d.move n .returned with published := d.published ++ [n] } m := by
    intro m hm j hj hsame
    have hended : d.jobs j = .ended := hm j hj hsame
    have hne : j ≠ n := fun heq => by simp [heq, hjob] at hended
    simp [Debouncer.move, Function.update_of_ne hne, hended]
  have hthrough : ∀ m ∈ d.published, m ≠ n := by
    intro m hm heq
    have hstage := (h.through m hm).1
    simp [heq, hjob] at hstage
  refine ⟨fun m => ?_, h.timer, fun m hm => ?_, fun m hm => ?_, ?_, fun hrun m hm => ?_⟩
  · have hmade : n < d.submitted.length := (h.made n).mp (by simp [hjob])
    by_cases heq : m = n
    · subst heq
      simpa [Debouncer.move] using hmade
    · simpa [Debouncer.move, Function.update_of_ne heq] using h.made m
  · by_cases heq : m = n
    · subst heq
      exact hFirst m hfirst
    · refine hFirst m (h.running m ?_)
      simpa [Debouncer.move, Function.update_of_ne heq] using hm
  · rcases List.mem_append.mp hm with hm | hm
    · obtain ⟨hstage, hbefore⟩ := h.through m hm
      refine ⟨?_, hFirst m hbefore⟩
      simpa [Debouncer.move, Function.update_of_ne (hthrough m hm)] using hstage
    · obtain rfl := List.mem_singleton.mp hm
      exact ⟨.inl (Function.update_self _ _ _), hFirst m hfirst⟩
  · refine List.pairwise_append.mpr ⟨h.increasing, List.pairwise_singleton _ _, ?_⟩
    intro m hm j hj hsame
    obtain rfl := List.mem_singleton.mp hj
    have hsame : d.owner m = d.owner j := hsame
    have hne := hthrough m hm
    by_contra hlater
    have hended := (h.through m hm).2 j (by omega) hsame.symm
    simp [hjob] at hended
  · by_cases heq : m = n
    · exact .inl (List.mem_append_right _ (by simp [heq]))
    · have hold : d.jobs m = .returned ∨ d.jobs m = .ended := by
        simpa [Debouncer.move, Function.update_of_ne heq] using hm
      rcases h.kept hrun m hold with hmem | hnewer
      · exact .inl (List.mem_append_left _ hmem)
      · exact .inr hnewer

theorem stage_stop_cases (stage : Stage) :
    stage.stop = stage ∨ stage = .armed ∧ stage.stop = .ended := by
  cases stage <;> simp [Stage.stop]

theorem submit_jobs (h : Invariant d) (id : String) (event : E) (n : ℕ) :
    (n = d.submitted.length ∧ (d.submit id event).jobs n = .armed) ∨
      (n ≠ d.submitted.length ∧ (d.submit id event).jobs n = d.jobs n) ∨
      (n < d.submitted.length ∧ (d.submit id event).jobs n = .ended ∧ d.jobs n = .armed ∧
        d.owner n = some id) := by
  by_cases hn : n = d.submitted.length
  · subst hn
    exact .inl ⟨rfl, Function.update_self _ _ _⟩
  · have hjob : (d.submit id event).jobs n = cancel d.jobs (d.timers.lookup id) n :=
      Function.update_of_ne hn _ _
    rw [hjob, cancel]
    by_cases htimer : d.timers.lookup id = some n
    · have howner := h.timer id n htimer
      have hlt : n < d.submitted.length := owner_isSome.mp (by simp [howner])
      rw [if_pos htimer]
      rcases stage_stop_cases (d.jobs n) with hsame | ⟨harmed, hended⟩
      · exact .inr (.inl ⟨hn, hsame⟩)
      · exact .inr (.inr ⟨hlt, hended, harmed, howner⟩)
    · rw [if_neg htimer]
      exact .inr (.inl ⟨hn, rfl⟩)

theorem owner_submit (id : String) (event : E) :
    (d.submit id event).owner n = if n = d.submitted.length then some id else d.owner n := by
  by_cases hn : n = d.submitted.length
  · subst hn
    simp [Debouncer.submit, Debouncer.owner]
  · rw [if_neg hn]
    by_cases hlt : n < d.submitted.length
    · simp [Debouncer.submit, Debouncer.owner, List.getElem?_append_left hlt]
    · simp [Debouncer.submit, Debouncer.owner, List.getElem?_eq_none (show
        (d.submitted ++ [(id, event)]).length ≤ n by simp; omega),
        List.getElem?_eq_none (show d.submitted.length ≤ n by omega)]

theorem First.submit (h : Invariant d) (id : String) (event : E) (hn : n < d.submitted.length)
    (hfirst : First d n) : First (d.submit id event) n := by
  intro m hm hsame
  rw [owner_submit, owner_submit, if_neg (by omega), if_neg (by omega)] at hsame
  have hended := hfirst m hm hsame
  rcases submit_jobs h id event m with ⟨heq, -⟩ | ⟨-, hjob⟩ | ⟨-, hjob, -⟩
  · omega
  · rw [hjob, hended]
  · exact hjob

theorem invariant_submit (h : Invariant d) (id : String) (event : E) :
    Invariant (d.submit id event) := by
  have hmade : ∀ {m}, d.jobs m ≠ .unmade → m < d.submitted.length := fun {m} => (h.made m).mp
  have hlength : (d.submit id event).submitted.length = d.submitted.length + 1 := by
    simp [Debouncer.submit]
  have hpublished : ∀ {m}, m ∈ d.published → m < d.submitted.length := by
    intro m hm
    rcases (h.through m hm).1 with hstage | hstage <;> exact hmade (by simp [hstage])
  refine ⟨fun m => ?_, fun other m hm => ?_, fun m hm => ?_, fun m hm => ?_, ?_,
    fun hrun m hm => ?_⟩
  · rw [hlength]
    rcases submit_jobs h id event m with ⟨heq, hjob⟩ | ⟨hne, hjob⟩ | ⟨hlt, hjob, -⟩
    · exact iff_of_true (by simp [hjob]) (by omega)
    · rw [hjob, h.made m]
      omega
    · exact iff_of_true (by simp [hjob]) (by omega)
  · rw [owner_submit]
    change (d.timers.insert id d.submitted.length).lookup other = some m at hm
    by_cases hother : other = id
    · subst hother
      rw [Finmap.lookup_insert] at hm
      rw [if_pos (Option.some.inj hm).symm]
    · rw [Finmap.lookup_insert_of_ne _ hother] at hm
      have howner := h.timer other m hm
      have hlt : m < d.submitted.length := owner_isSome.mp (by simp [howner])
      rw [if_neg (by omega), howner]
  · rcases submit_jobs h id event m with ⟨-, hjob⟩ | ⟨-, hjob⟩ | ⟨-, hjob, -⟩
    · simp [hjob, Running] at hm
    · rw [hjob] at hm
      exact (h.running m hm).submit h id event (hmade hm.1)
    · simp [hjob, Running] at hm
  · have hlt := hpublished hm
    obtain ⟨hstage, hfirst⟩ := h.through m hm
    refine ⟨?_, hfirst.submit h id event hlt⟩
    rcases submit_jobs h id event m with ⟨heq, -⟩ | ⟨-, hjob⟩ | ⟨-, hjob, -⟩
    · omega
    · rwa [hjob]
    · exact .inr hjob
  · refine h.increasing.imp_of_mem fun {a b} ha hb hab hsame => ?_
    have halt := hpublished ha
    have hblt := hpublished hb
    rw [owner_submit, owner_submit, if_neg (by omega), if_neg (by omega)] at hsame
    exact hab hsame
  · rcases submit_jobs h id event m with ⟨-, hjob⟩ | ⟨hne, hjob⟩ | ⟨hlt, -, -, howner⟩
    · simp [hjob] at hm
    · rw [hjob] at hm
      rcases h.kept hrun m hm with hmem | ⟨k, hk, hsame⟩
      · exact .inl hmem
      · have hkmade : k < d.submitted.length := by
          rw [← owner_isSome, hsame, owner_isSome]
          rcases hm with hm | hm <;> exact hmade (by simp [hm])
        refine .inr ⟨k, hk, ?_⟩
        rw [owner_submit, owner_submit, if_neg (by omega), if_neg hne, hsame]
    · refine .inr ⟨d.submitted.length, hlt, ?_⟩
      rw [owner_submit, owner_submit, if_pos rfl, if_neg (by omega), howner]

theorem invariant_stop (h : Invariant d) : Invariant d.stop := by
  have hjobs : ∀ m, d.stop.jobs m = d.jobs m ∨ d.jobs m = .armed ∧ d.stop.jobs m = .ended := by
    intro m
    unfold Debouncer.stop
    dsimp only
    split
    · exact stage_stop_cases (d.jobs m)
    · exact .inl rfl
  have hFirst : ∀ m, First d m → First d.stop m := by
    intro m hm k hk hsame
    have hended := hm k hk hsame
    rcases hjobs k with hjob | ⟨-, hjob⟩
    · rw [hjob, hended]
    · exact hjob
  refine ⟨fun m => ?_, fun id m hm => ?_, fun m hm => ?_, fun m hm => ?_, h.increasing, nofun⟩
  · have hmade := h.made m
    rcases hjobs m with hjob | ⟨harmed, hjob⟩
    · rwa [hjob]
    · exact iff_of_true (by simp [hjob]) (hmade.mp (by simp [harmed]))
  · simp [Debouncer.stop] at hm
  · rcases hjobs m with hjob | ⟨-, hjob⟩
    · exact hFirst m (h.running m (hjob ▸ hm))
    · simp [hjob, Running] at hm
  · obtain ⟨hstage, hfirst⟩ := h.through m hm
    refine ⟨?_, hFirst m hfirst⟩
    rcases hjobs m with hjob | ⟨-, hjob⟩
    · rwa [hjob]
    · exact .inr hjob

theorem invariant_newDebouncer : Invariant (newDebouncer : Debouncer E) where
  made n := by simp [newDebouncer]
  timer := nofun
  running n h := absurd rfl h.1
  through := nofun
  increasing := .nil
  kept _ n h := by simp [newDebouncer] at h

theorem invariant_step {attempts : ℕ} {a : Action E} (h : Invariant d)
    (hstep : Guarded (Step attempts) Prompt d a d') : Invariant d' := by
  obtain ⟨hguard, hstep⟩ := hstep
  have same : ∀ id m, d.timers.lookup id = some m → d.timers.lookup id = some m :=
    fun _ _ hm => hm
  cases hstep with
  | submit id event => exact invariant_submit h id event
  | ignore => exact h
  | fire hjob =>
    exact h.of_move rfl (by simp [hjob]) (by simp) rfl rfl rfl same (by simp [hjob])
      (fun _ => hguard) (by simp [hjob]) (by simp)
  | call hjob => exact invariant_call h hjob
  | publish hjob => exact invariant_publish h hjob
  | @fail n k hjob hk =>
    have hfirst : First d n := h.running n (by simp [hjob, Running])
    split
    · exact h.of_move rfl (by simp [hjob]) (by simp) rfl rfl rfl same (by simp [hjob])
        (fun _ => hfirst) (by simp [hjob]) (by simp)
    · exact h.of_move rfl (by simp [hjob]) (by simp) rfl rfl rfl same (by simp [hjob])
        (fun _ => hfirst) (by simp [hjob]) (by simp)
  | @backoff n k hjob =>
    have hfirst : First d n := h.running n (by simp [hjob, Running])
    exact h.of_move rfl (by simp [hjob]) (by simp) rfl rfl rfl same (by simp [hjob])
      (fun _ => hfirst) (by simp [hjob]) (by simp)
  | abandon | drop => exact hguard.elim
  | @done n hjob =>
    exact h.of_move rfl (by simp [hjob]) (by simp) rfl rfl rfl same (by simp [hjob])
      (by simp [Running]) (by simp) (fun _ _ => hjob)
  | stop => exact invariant_stop h
  | wait => exact ⟨h.made, h.timer, h.running, h.through, h.increasing, h.kept⟩

end Steps

section Order

variable {d : Debouncer E} {id : String} {n : ℕ}

theorem mem_submittedOf : n ∈ d.submittedOf id ↔ d.owner n = some id := by
  simp only [Debouncer.submittedOf, List.mem_filter, List.mem_range, decide_eq_true_eq,
    and_iff_right_iff_imp]
  exact fun h => owner_isSome.mp (by simp [h])

theorem mem_publishedOf : n ∈ d.publishedOf id ↔ n ∈ d.published ∧ d.owner n = some id := by
  simp [Debouncer.publishedOf]

theorem submittedOf_increasing (d : Debouncer E) (id : String) :
    (d.submittedOf id).Pairwise (· < ·) :=
  List.pairwise_lt_range.filter _

theorem Invariant.publishedOf_increasing (h : Invariant d) (id : String) :
    (d.publishedOf id).Pairwise (· < ·) := by
  refine List.pairwise_filter.mpr (h.increasing.imp fun {a b} hab ha hb => hab ?_)
  simp only [decide_eq_true_eq] at ha hb
  rw [ha, hb]

theorem Invariant.last_published (h : Invariant d) (hquiet : Quiescent d)
    (hrunning : d.stopped = false) (hlast : (d.submittedOf id).getLast? = some n) :
    n ∈ d.publishedOf id := by
  have howner : d.owner n = some id := mem_submittedOf.mp (List.mem_of_getLast? hlast)
  have hmade := (h.made n).mpr (owner_isSome.mp (by simp [howner]))
  have hended : d.jobs n = .ended := (hquiet n).resolve_left hmade
  rcases h.kept hrunning n (.inr hended) with hmem | ⟨m, hm, hsame⟩
  · exact mem_publishedOf.mpr ⟨hmem, howner⟩
  · have hle := le_last (submittedOf_increasing d id) hlast
      (mem_submittedOf.mpr (hsame.trans howner))
    omega

theorem Invariant.latestLast (h : Invariant d) (id : String) : LatestLast d id := by
  refine ⟨h.publishedOf_increasing id, fun hquiet hrunning => ?_⟩
  refine last_eq_of_subset (h.publishedOf_increasing id) (submittedOf_increasing d id) ?_ ?_
  · intro n hn
    exact mem_submittedOf.mpr (mem_publishedOf.mp hn).2
  · exact fun n => h.last_published hquiet hrunning

end Order

/-- In every run in which each timer fires after the earlier callbacks of its instance have ended,
and no publish is given up, the latest status is the last one that is published. -/
theorem latest_published_last {attempts : ℕ} {d : Debouncer E} {l : List (Action E)}
    (h : Run (Guarded (Step attempts) Prompt) newDebouncer l d) (id : String) :
    LatestLast d id := by
  have hinv : Invariant d := h.preserves invariant_newDebouncer
    fun _ _ _ hinv hstep => invariant_step hinv hstep
  exact hinv.latestLast id

def promptPlay : List (Action ℕ) × Debouncer ℕ :=
  playMoves (guardMoves (Debouncer.next containerAttempts) Prompt) newDebouncer
    [.submit "a" 1, .job 0, .job 0, .fail 0, .submit "a" 2, .job 0, .job 0, .job 0, .job 1, .job 1,
      .job 1, .job 1]

theorem latest_published_last_container :
    promptPlay.2.publishedOf "a" = [0, 1] ∧ LatestLast promptPlay.2 "a" :=
  ⟨by decide +kernel, latest_published_last
    (run_playMoves _ (guarded_guardMoves _ (step_next containerAttempts)) _ _) "a"⟩

def slowMoves : List (Move ℕ) :=
  [.submit "a" 1, .job 0, .job 0, .submit "a" 2, .job 1, .job 1, .job 1, .job 1, .job 0, .job 0]

def slowPlay (attempts : ℕ) : List (Action ℕ) × Debouncer ℕ :=
  playMoves (Debouncer.next attempts) newDebouncer slowMoves

/-- The superseded status is the last one that is published, in both monitors. -/
theorem superseded_published_last :
    Run (Step containerAttempts) newDebouncer (slowPlay containerAttempts).1
        (slowPlay containerAttempts).2 ∧
      (slowPlay containerAttempts).2.publishedOf "a" = [1, 0] ∧
      ¬ LatestLast (slowPlay containerAttempts).2 "a" ∧
      Run (Step (clusterAttempts 3)) newDebouncer (slowPlay (clusterAttempts 3)).1
        (slowPlay (clusterAttempts 3)).2 ∧
      (slowPlay (clusterAttempts 3)).2.publishedOf "a" = [1, 0] ∧
      ¬ LatestLast (slowPlay (clusterAttempts 3)).2 "a" := by
  have hcontainer : (slowPlay containerAttempts).2.publishedOf "a" = [1, 0] := by decide +kernel
  have hcluster : (slowPlay (clusterAttempts 3)).2.publishedOf "a" = [1, 0] := by decide +kernel
  refine ⟨run_playMoves _ (step_next _) _ _, hcontainer, fun h => ?_,
    run_playMoves _ (step_next _) _ _, hcluster, fun h => ?_⟩
  · have hincreasing := hcontainer ▸ h.increasing
    simp at hincreasing
  · have hincreasing := hcluster ▸ h.increasing
    simp at hincreasing

end TimerDebouncer
