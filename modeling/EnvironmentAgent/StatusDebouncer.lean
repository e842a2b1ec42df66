import EnvironmentAgent.LabelledRuns
import Mathlib.Data.Finset.Erase
import Mathlib.Data.Finset.Insert
import Mathlib.Data.Finmap

/-! # The debouncer of the storage and network monitors

`storage/monitoring/debouncer.go`, to which `network/monitoring/debouncer.go` is identical. Each
part under the lock is one step. A timer and the goroutine of its callback are one job: callbacks
of replaced timers come late, with versions that a new state of the same instance may have again.
Versions do not wrap around. -/
namespace StatusDebouncer

open LabelledRuns

variable {E : Type}

structure InstanceState (E : Type) where
  timer : Option ℕ
  pending : E
  ver : ℕ
  draining : Bool
  deriving DecidableEq, Repr

inductive Job (E : Type) where
  | unmade
  | armed (id : String) (ver : ℕ)
  | called (id : String) (ver : ℕ)
  /-- `beginPublish` has returned the event. -/
  | begun (id : String) (ver : ℕ) (event : E)
  | publishing (id : String) (ver : ℕ) (event : E)
  | published (id : String) (ver : ℕ)
  /-- `endPublish` has `stopFlush` to publish. -/
  | flush (id : String) (event : E)
  | flushing (id : String) (event : E)
  | ended
  deriving DecidableEq, Repr

inductive Stopping (E : Type) where
  | idle
  | flush (toFlush : List (String × E))
  | flushing (id : String) (event : E) (toFlush : List (String × E))
  | returned
  deriving DecidableEq, Repr

/-- `wg` has the jobs of the wait group. `accepted` and `published` are histories: the events that
`Submit` did not ignore, and those `publishFn` was called with. -/
structure Debouncer (E : Type) where
  instances : Finmap fun _ : String => InstanceState E
  stopped : Bool
  wg : Finset ℕ
  timers : ℕ
  jobs : ℕ → Job E
  stopping : Stopping E
  accepted : List (String × E)
  published : List (String × E)

def newDebouncer : Debouncer E where
  instances := ∅
  stopped := false
  wg := ∅
  timers := 0
  jobs := fun _ => .unmade
  stopping := .idle
  accepted := []
  published := []

def cancel (jobs : ℕ → Job E) : Option ℕ → ℕ → Job E
  | none => jobs
  | some n =>
    match jobs n with
    | .armed _ _ => Function.update jobs n .ended
    | _ => jobs

def write (instances : Finmap fun _ : String => InstanceState E) (id : String) :
    Option (InstanceState E) → Finmap fun _ : String => InstanceState E
  | some state => instances.insert id state
  | none => instances.erase id

namespace Debouncer

def state (d : Debouncer E) (id : String) : Option (InstanceState E) := d.instances.lookup id

def move (d : Debouncer E) (n : ℕ) (job : Job E) : Debouncer E :=
  { d with jobs := Function.update d.jobs n job }

def put (d : Debouncer E) (id : String) (s : Option (InstanceState E)) : Debouncer E :=
  { d with instances := write d.instances id s }

def submit (d : Debouncer E) (id : String) (event : E) : Debouncer E :=
  let state := (d.state id).getD ⟨none, event, 0, false⟩
  let state := { state with pending := event, ver := state.ver + 1 }
  let d := { d with accepted := d.accepted ++ [(id, event)] }
  if state.draining then d.put id (some state)
  else
    { d.put id (some { state with timer := some d.timers }) with
      timers := d.timers + 1
      jobs := Function.update (cancel d.jobs state.timer) d.timers (.armed id state.ver) }

def beginPublish (d : Debouncer E) (n : ℕ) (id : String) (ver : ℕ) : Debouncer E :=
  match d.state id with
  | some state =>
    if d.stopped = false ∧ state.ver = ver ∧ state.draining = false then
      { (d.put id (some { state with timer := none, draining := true })).move n
          (.begun id ver state.pending) with
        wg := insert n d.wg }
    else d.move n .ended
  | none => d.move n .ended

def endPublish (d : Debouncer E) (n : ℕ) (id : String) (publishedVer : ℕ) : Debouncer E :=
  let done := { d with wg := d.wg.erase n }
  match d.state id with
  | some state =>
    if publishedVer < state.ver then
      if d.stopped then (done.put id none).move n (.flush id state.pending)
      else (done.put id (some { state with draining := false })).move n (.called id state.ver)
    else (done.put id none).move n .ended
  | none => done.move n .ended

def keepDraining (state : InstanceState E) : Option (InstanceState E) :=
  if state.draining then some { state with timer := none } else none

def visit (d : Debouncer E) (id : String) : Debouncer E :=
  d.put id ((d.state id).bind keepDraining)

def flushOf (d : Debouncer E) (id : String) : Option (String × E) :=
  match d.state id with
  | some state => if state.draining then none else some (id, state.pending)
  | none => none

/-- The part of `Stop` under the lock, with the order in which it ranges over the instances. -/
def stop (d : Debouncer E) (order : List String) : Debouncer E :=
  { d with
    stopped := true
    instances := (order.foldl visit d).instances
    jobs := order.foldl (fun jobs id => cancel jobs ((d.state id).bind (·.timer))) d.jobs
    stopping := .flush (order.filterMap d.flushOf) }

def record (d : Debouncer E) (id : String) (event : E) : Debouncer E :=
  { d with published := d.published ++ [(id, event)] }

end Debouncer

inductive Party where
  | job (n : ℕ)
  | stop
  deriving DecidableEq, Repr

inductive Action (E : Type) where
  | submit (id : String) (event : E)
  /-- `Submit` when stopped. -/
  | ignore (id : String) (event : E)
  | fire (n : ℕ)
  | beginPublish (n : ℕ)
  /-- `publishFn` is called. -/
  | call (p : Party) (id : String) (event : E)
  | done (p : Party) (id : String) (event : E)
  | endPublish (n : ℕ)
  | stop (order : List String)
  /-- `Stop` returns. -/
  | wait

inductive Step : Debouncer E → Action E → Debouncer E → Prop where
  | submit {d : Debouncer E} (id : String) (event : E) (h : d.stopped = false) :
      Step d (.submit id event) (d.submit id event)
  | ignore {d : Debouncer E} (id : String) (event : E) (h : d.stopped = true) :
      Step d (.ignore id event) d
  | fire {d : Debouncer E} {n : ℕ} {id : String} {ver : ℕ} (h : d.jobs n = .armed id ver) :
      Step d (.fire n) (d.move n (.called id ver))
  | beginPublish {d : Debouncer E} {n : ℕ} {id : String} {ver : ℕ}
      (h : d.jobs n = .called id ver) : Step d (.beginPublish n) (d.beginPublish n id ver)
  | publish {d : Debouncer E} {n : ℕ} {id : String} {ver : ℕ} {event : E}
      (h : d.jobs n = .begun id ver event) :
      Step d (.call (.job n) id event) ((d.move n (.publishing id ver event)).record id event)
  | published {d : Debouncer E} {n : ℕ} {id : String} {ver : ℕ} {event : E}
      (h : d.jobs n = .publishing id ver event) :
      Step d (.done (.job n) id event) (d.move n (.published id ver))
  | endPublish {d : Debouncer E} {n : ℕ} {id : String} {ver : ℕ}
      (h : d.jobs n = .published id ver) : Step d (.endPublish n) (d.endPublish n id ver)
  | flush {d : Debouncer E} {n : ℕ} {id : String} {event : E} (h : d.jobs n = .flush id event) :
      Step d (.call (.job n) id event) ((d.move n (.flushing id event)).record id event)
  | flushed {d : Debouncer E} {n : ℕ} {id : String} {event : E}
      (h : d.jobs n = .flushing id event) :
      Step d (.done (.job n) id event) (d.move n .ended)
  | stop {d : Debouncer E} (order : List String) (h : d.stopping = .idle) (hnodup : order.Nodup)
      (horder : order.toFinset = d.instances.keys) : Step d (.stop order) (d.stop order)
  | stopFlush {d : Debouncer E} {id : String} {event : E} {rest : List (String × E)}
      (h : d.stopping = .flush ((id, event) :: rest)) :
      Step d (.call .stop id event)
        ({ d with stopping := .flushing id event rest }.record id event)
  | stopFlushed {d : Debouncer E} {id : String} {event : E} {rest : List (String × E)}
      (h : d.stopping = .flushing id event rest) :
      Step d (.done .stop id event) { d with stopping := .flush rest }
  | wait {d : Debouncer E} (h : d.stopping = .flush []) (hwg : d.wg = ∅) :
      Step d .wait { d with stopping := .returned }

variable {order : List String}

section Instances

variable {d : Debouncer E} {id other : String}

@[simp] theorem lookup_write (instances : Finmap fun _ : String => InstanceState E) (id : String)
    (s : Option (InstanceState E)) : (write instances id s).lookup id = s := by
  cases s with
  | some state => exact Finmap.lookup_insert _
  | none => exact Finmap.lookup_erase _ _

theorem lookup_write_other {instances : Finmap fun _ : String => InstanceState E} (h : other ≠ id)
    (s : Option (InstanceState E)) :
    (write instances id s).lookup other = instances.lookup other := by
  cases s with
  | some state => exact Finmap.lookup_insert_of_ne _ h
  | none => exact Finmap.lookup_erase_ne h

theorem state_visitAll (d : Debouncer E) (hnodup : order.Nodup) :
    (order.foldl Debouncer.visit d).state id =
      if id ∈ order then (d.state id).bind Debouncer.keepDraining else d.state id := by
  induction order generalizing d with
  | nil => simp
  | cons first rest ih =>
    obtain ⟨hfirst, hrest⟩ := List.nodup_cons.mp hnodup
    rw [List.foldl_cons, ih _ hrest]
    by_cases hid : id = first
    · subst hid
      simp [hfirst, Debouncer.visit, Debouncer.state, Debouncer.put]
    · simp [hid, Debouncer.visit, Debouncer.state, Debouncer.put, lookup_write_other hid]

theorem mem_order (horder : order.toFinset = d.instances.keys) :
    id ∈ order ↔ d.state id ≠ none := by
  rw [← List.mem_toFinset, horder, Finmap.mem_keys, Debouncer.state, Ne, Finmap.lookup_eq_none,
    not_not]

theorem state_stop (hnodup : order.Nodup) (horder : order.toFinset = d.instances.keys) :
    (d.stop order).state id = (d.state id).bind Debouncer.keepDraining := by
  have hvisited : (d.stop order).state id = (order.foldl Debouncer.visit d).state id := rfl
  rw [hvisited, state_visitAll d hnodup]
  by_cases hid : id ∈ order
  · rw [if_pos hid]
  · have hnone : d.state id = none := by
      by_contra hsome
      exact hid ((mem_order horder).mpr hsome)
    rw [if_neg hid, hnone, Option.bind_none]

end Instances

inductive Move (E : Type) where
  | submit (id : String) (event : E)
  | job (n : ℕ)
  | callStop (order : List String)
  | stop

def Debouncer.next (d : Debouncer E) : Move E → Option (Action E × Debouncer E)
  | .submit id event =>
    if d.stopped then some (.ignore id event, d) else some (.submit id event, d.submit id event)
  | .job n =>
    match d.jobs n with
    | .armed id ver => some (.fire n, d.move n (.called id ver))
    | .called id ver => some (.beginPublish n, d.beginPublish n id ver)
    | .begun id ver event =>
      some (.call (.job n) id event, (d.move n (.publishing id ver event)).record id event)
    | .publishing id ver event => some (.done (.job n) id event, d.move n (.published id ver))
    | .published id ver => some (.endPublish n, d.endPublish n id ver)
    | .flush id event =>
      some (.call (.job n) id event, (d.move n (.flushing id event)).record id event)
    | .flushing id event => some (.done (.job n) id event, d.move n .ended)
    | _ => none
  | .callStop order =>
    match d.stopping with
    | .idle =>
      if order.Nodup ∧ order.toFinset = d.instances.keys then some (.stop order, d.stop order)
      else none
    | _ => none
  | .stop =>
    match d.stopping with
    | .flush ((id, event) :: rest) =>
      some (.call .stop id event, { d with stopping := .flushing id event rest }.record id event)
    | .flushing id event rest => some (.done .stop id event, { d with stopping := .flush rest })
    | .flush [] => if d.wg = ∅ then some (.wait, { d with stopping := .returned }) else none
    | _ => none

theorem step_next (d : Debouncer E) (move : Move E) (a : Action E) (d' : Debouncer E)
    (h : d.next move = some (a, d')) : Step d a d' := by
  cases move with
  | submit id event =>
    simp only [Debouncer.next] at h
    split at h
    · cases h
      exact .ignore id event ‹_›
    · rename_i hrunning
      cases h
      exact .submit id event (by simpa using hrunning)
  | job n =>
    simp only [Debouncer.next] at h
    split at h
    · cases h
      exact .fire ‹_›
    · cases h
      exact .beginPublish ‹_›
    · cases h
      exact .publish ‹_›
    · cases h
      exact .published ‹_›
    · cases h
      exact .endPublish ‹_›
    · cases h
      exact .flush ‹_›
    · cases h
      exact .flushed ‹_›
    · cases h
  | callStop order =>
    simp only [Debouncer.next] at h
    split at h
    · split at h
      · rename_i hidle horder
        cases h
        exact .stop order hidle horder.1 horder.2
      · cases h
    · cases h
  | stop =>
    simp only [Debouncer.next] at h
    split at h
    · cases h
      exact .stopFlush ‹_›
    · cases h
      exact .stopFlushed ‹_›
    · split at h
      · cases h
        exact .wait ‹_› ‹_›
      · cases h
    · cases h

inductive Stage (E : Type) where
  | taken (ver : Option ℕ) (event : E)
  | publishing (ver : Option ℕ) (event : E)
  | returned (ver : ℕ)

namespace Stage

def ver : Stage E → Option ℕ
  | .taken ver _ | .publishing ver _ => ver
  | .returned ver => some ver

def hand : Stage E → List E
  | .taken _ event => [event]
  | _ => []

end Stage

def Job.stage : Job E → Option (String × Stage E)
  | .begun id ver event => some (id, .taken (some ver) event)
  | .publishing id ver event => some (id, .publishing (some ver) event)
  | .published id ver => some (id, .returned ver)
  | .flush id event => some (id, .taken none event)
  | .flushing id event => some (id, .publishing none event)
  | _ => none

namespace Stopping

def rest : Stopping E → List (String × E)
  | .flush toFlush | .flushing _ _ toFlush => toFlush
  | _ => []

def current : Stopping E → Option (String × E)
  | .flushing id event _ => some (id, event)
  | _ => none

def holds (s : Stopping E) (id : String) : Stage E → Prop
  | .taken none event => (id, event) ∈ s.rest
  | .publishing none event => s.current = some (id, event)
  | _ => False

end Stopping

def Holds (d : Debouncer E) (id : String) (stage : Stage E) : Party → Prop
  | .job n => (d.jobs n).stage = some (id, stage)
  | .stop => d.stopping.holds id stage

def InstanceState.behind (state : InstanceState E) (ver : ℕ) : List E :=
  if ver < state.ver then [state.pending] else []

end StatusDebouncer
