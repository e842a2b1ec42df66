import EnvironmentAgent.ProgramInterleavings
import EnvironmentAgent.RoutingForwarder
import EnvironmentAgent.RoutingResourceSet

/-! # The state shared by the routing goroutines

The deny list, the claimed set and the in-flight lock are shared by the router and the retry
processor. Every other operation is answered by the environment, which a predicate may restrict. -/
namespace RoutingSharedState

open AtomicPrograms ProgramInterleavings RoutingEffects RoutingResourceSet

structure SharedState where
  denyList : ResourceSet
  claimed : ResourceSet
  inFlight : KeyLock

namespace SharedState

def ledger (w : SharedState) : Ledger → ResourceSet
  | .denyList => w.denyList
  | .claimedResourcesSet => w.claimed

def setLedger (w : SharedState) (s : ResourceSet) : Ledger → SharedState
  | .denyList => { w with denyList := s }
  | .claimedResourcesSet => { w with claimed := s }

@[simp] theorem setLedger_inFlight (w : SharedState) (s : ResourceSet) (l : Ledger) :
    (w.setLedger s l).inFlight = w.inFlight := by cases l <;> rfl

def method (w : SharedState) : (o : Op) → Option (o.Ans × SharedState)
  | .add l r => some ((), w.setLedger ((w.ledger l).add r) l)
  | .addIfAbsent l r =>
    some (((w.ledger l).addIfAbsent r).1, w.setLedger ((w.ledger l).addIfAbsent r).2 l)
  | .contains l r =>
    some (((w.ledger l).contains r).1, w.setLedger ((w.ledger l).contains r).2 l)
  | .consume l r =>
    some (((w.ledger l).consume r).1, w.setLedger ((w.ledger l).consume r).2 l)
  | .remove l r => some ((), w.setLedger ((w.ledger l).remove r) l)
  | .lockAddIfAbsent r =>
    some ((w.inFlight.addIfAbsent r).1, { w with inFlight := (w.inFlight.addIfAbsent r).2 })
  | .lockRemove r => some ((), { w with inFlight := w.inFlight.remove r })
  | _ => none

end SharedState

abbrev Environment := (o : Op) → o.Ans → Prop

def act (env : Environment) (o : Op) (w : SharedState) (x : o.Ans) (w' : SharedState) : Prop :=
  match w.method o with
  | some p => (x, w') = p
  | none => env o x ∧ w' = w

variable {t : List RoutingEvent}

section Ledgers

variable {env : Environment} {w w' : SharedState} {o : Op} {x : o.Ans} {l : Ledger} {r : String}

def Outside : Op → Prop
  | .add _ _ | .addIfAbsent _ _ | .contains _ _ | .consume _ _ | .remove _ _
  | .lockAddIfAbsent _ | .lockRemove _ => False
  | _ => True

theorem act_outside (ho : Outside o) (h : act env o w x w') : env o x ∧ w' = w := by
  cases o <;> first | exact ho.elim | exact h

def UsesLock : Op → Prop
  | .lockAddIfAbsent _ | .lockRemove _ => True
  | _ => False

theorem act_inFlight_eq (ho : ¬ UsesLock o) (h : act env o w x w') :
    w'.inFlight = w.inFlight := by
  cases o with
  | lockAddIfAbsent | lockRemove => exact absurd trivial ho
  | add | addIfAbsent | contains | consume | remove =>
    obtain ⟨-, rfl⟩ := Prod.mk.inj h
    exact SharedState.setLedger_inFlight _ _ _
  | _ =>
    obtain ⟨-, rfl⟩ := h
    rfl

@[simp] theorem ledger_setLedger_self (w : SharedState) (s : ResourceSet) (l : Ledger) :
    (w.setLedger s l).ledger l = s := by cases l <;> rfl

theorem ledger_setLedger_of_ne (w : SharedState) (s : ResourceSet) {l' : Ledger} (h : l' ≠ l) :
    (w.setLedger s l).ledger l' = w.ledger l' := by
  cases l <;> cases l' <;> first | exact absurd rfl h | rfl

theorem act_contains {b : Bool} (h : act env (.contains l r) w b w') :
    (b = true ↔ r ∈ w.ledger l) ∧ ∀ l' r', r' ∈ w'.ledger l' ↔ r' ∈ w.ledger l' := by
  obtain ⟨rfl, rfl⟩ := Prod.mk.inj h
  refine ⟨ResourceSet.contains_fst _ _, fun l' r' => ?_⟩
  by_cases hl : l' = l
  · subst hl; simp
  · rw [ledger_setLedger_of_ne _ _ hl]

theorem act_consume {b : Bool} (h : act env (.consume l r) w b w') :
    (b = true ↔ r ∈ w.ledger l) ∧ r ∉ w'.ledger l ∧
      ∀ l' ≠ l, w'.ledger l' = w.ledger l' := by
  obtain ⟨rfl, rfl⟩ := Prod.mk.inj h
  exact ⟨ResourceSet.consume_fst _ _, by simp, fun l' hl => ledger_setLedger_of_ne _ _ hl⟩

theorem act_remove {u : Unit} (h : act env (.remove l r) w u w') :
    r ∉ w'.ledger l ∧ ∀ l' ≠ l, w'.ledger l' = w.ledger l' := by
  obtain ⟨-, rfl⟩ := Prod.mk.inj h
  exact ⟨by simp, fun l' hl => ledger_setLedger_of_ne _ _ hl⟩

theorem act_add {u : Unit} (h : act env (.add l r) w u w') :
    r ∈ w'.ledger l ∧ ∀ l' ≠ l, w'.ledger l' = w.ledger l' := by
  obtain ⟨-, rfl⟩ := Prod.mk.inj h
  refine ⟨?_, fun l' hl => ledger_setLedger_of_ne _ _ hl⟩
  rw [ledger_setLedger_self]
  exact ResourceSet.mem_insertId_self _ _

theorem act_addIfAbsent {b : Bool} (h : act env (.addIfAbsent l r) w b w') :
    (b = true ↔ r ∉ w.ledger l) ∧ r ∈ w'.ledger l ∧ ∀ l' ≠ l, w'.ledger l' = w.ledger l' := by
  obtain ⟨rfl, rfl⟩ := Prod.mk.inj h
  refine ⟨ResourceSet.insertId_fst _ _, ?_, fun l' hl => ledger_setLedger_of_ne _ _ hl⟩
  rw [ledger_setLedger_self]
  exact ResourceSet.mem_insertId_self _ _

inductive Acts (env : Environment) : SharedState → List RoutingEvent → SharedState → Prop
  | nil (w : SharedState) : Acts env w [] w
  | cons {w v w' : SharedState} {o : Op} {x : o.Ans} {t : List RoutingEvent}
      (h : act env o w x v) (ht : Acts env v t w') : Acts env w (⟨o, x⟩ :: t) w'

theorem acts_cons :
    Acts env w (⟨o, x⟩ :: t) w' ↔ ∃ v, act env o w x v ∧ Acts env v t w' := by
  constructor
  · intro h
    cases h with
    | cons h ht => exact ⟨_, h, ht⟩
  · intro hboth
    obtain ⟨_, h, ht⟩ := hboth
    exact .cons h ht

theorem act_mono {env' : Environment} (henv : ∀ o x, env o x → env' o x)
    (h : act env o w x w') : act env' o w x w' := by
  unfold act at h ⊢
  cases hm : w.method o with
  | none =>
    rw [hm] at h
    exact ⟨henv o x h.1, h.2⟩
  | some p =>
    rw [hm] at h
    exact h

theorem Acts.mono {env' : Environment} (h : Acts env w t w') (henv : ∀ o x, env o x → env' o x) :
    Acts env' w t w' := by
  induction h with
  | nil w => exact .nil w
  | cons h _ ih => exact .cons (act_mono henv h) ih

theorem Acts.eq_of_outside (h : Acts env w t w') (ho : ∀ e ∈ t, Outside e.1) : w' = w := by
  induction h with
  | nil => rfl
  | cons h _ ih =>
    obtain ⟨hhead, hrest⟩ := List.forall_mem_cons.mp ho
    obtain ⟨-, rfl⟩ := act_outside hhead h
    exact ih hrest

theorem Acts.answered (h : Acts env w t w') {e : RoutingEvent} (he : e ∈ t) (ho : Outside e.1) :
    env e.1 e.2 := by
  induction h with
  | nil => cases he
  | cons h _ ih =>
    rcases List.mem_cons.mp he with rfl | he
    · exact (act_outside ho h).1
    · exact ih he

end Ledgers

def sharedSemantics (env : Environment) : Semantics routing SharedState Unit where
  act := act env
  spawn _ := []

/-- One state of the registry, the store and the tracker, one outcome of publishes and
acknowledgements, and a provider that answers as a function. -/
structure Answers where
  lookup : String → Option String
  getByName : String → Except String (Option StoredProvider)
  getByID : String → Except String (Option StoredProvider)
  getState : String → Option ProviderStatus
  sp : SPCall → SPResult
  contextEnded : Bool
  publish : Bool
  publishCE : Bool
  retryConsumer : Bool
  fetchAll : String → String → FetchResult
  acknowledged : Bool
  numDelivered : Option ℕ

def Answers.answer (a : Answers) : (o : Op) → o.Ans
  | .add _ _ | .remove _ _ | .lockRemove _ => ()
  | .addIfAbsent _ _ | .contains _ _ | .consume _ _ | .lockAddIfAbsent _ => false
  | .lookup t => a.lookup t
  | .getByName n => a.getByName n
  | .getByID i => a.getByID i
  | .getState i => a.getState i
  | .sp c => a.sp c
  | .ctxErr | .backoffTimer _ => a.contextEnded
  | .publish _ _ => a.publish
  | .publishCE _ _ => a.publishCE
  | .retryConsumer => a.retryConsumer
  | .fetchAll s c => a.fetchAll s c
  | .inProgress _ | .ack _ | .nak _ | .nakWithDelay _ | .term _ => a.acknowledged
  | .metadata _ => a.numDelivered
  | .rangeMap keys => ⟨keys, List.Perm.refl keys⟩

def handler (a : Answers) : Handler routing SharedState := fun o w =>
  (w.method o).getD (a.answer o, w)

variable {a : Answers}

theorem handler_act {env : Environment} (h : ∀ o, env o (a.answer o)) (o : Op) (w : SharedState) :
    act env o w (handler a o w).1 (handler a o w).2 := by
  unfold act handler
  cases w.method o with
  | none => exact ⟨h o, rfl⟩
  | some p => rfl

theorem acts_eval {α : Type} {env : Environment} (h : ∀ o, env o (a.answer o)) (p : Routine α)
    (w : SharedState) :
    Acts env w (p.eval (handler a) w).1 (p.eval (handler a) w).2.2 := by
  induction p generalizing w with
  | ret x => exact .nil w
  | raise => exact .nil w
  | call o k ih => exact .cons (handler_act h o w) (ih _ _)

theorem run_handler {env : Environment} (h : ∀ o, env o (a.answer o))
    (c : Config routing SharedState Unit) (schedule : List ℕ) :
    Run (sharedSemantics env) c (play (handler a) (fun _ => []) c schedule).1
      (play (handler a) (fun _ => []) c schedule).2 :=
  @run_play _ _ _ (sharedSemantics env) _ (fun o w => handler_act h o w) c schedule

theorem run_handler_guarded {env : Environment} (h : ∀ o, env o (a.answer o))
    {C : Op → SharedState → Prop} {c : Config routing SharedState Unit} {schedule : List ℕ}
    (hC : Meets C (handler a) (fun _ => []) c schedule) :
    Run ((sharedSemantics env).guarded C) c (play (handler a) (fun _ => []) c schedule).1
      (play (handler a) (fun _ => []) c schedule).2 :=
  @run_play_guarded _ _ _ (sharedSemantics env) _ (fun o w => handler_act h o w) C c schedule hC

def Answers.registry (a : Answers) : RoutingForwarder.Registry :=
  ⟨a.lookup, a.getByName, a.getState⟩

theorem eval_sees {α : Type} (a : Answers) (p : Routine α) (w : SharedState) :
    a.registry.Sees (p.eval (handler a) w).1 := by
  induction p generalizing w with
  | ret x => exact List.forall_mem_nil _
  | raise => exact List.forall_mem_nil _
  | call o k ih =>
    refine List.forall_mem_cons.mpr ⟨?_, ih _ _⟩
    cases o <;> trivial

/-- One registered provider with a status, whose calls all end alike; nothing else fails and
nothing is queued. -/
def singleProvider (sp : StoredProvider) (status : ProviderStatus) (result : SPResult) :
    Answers where
  lookup serviceType := if serviceType = sp.serviceType then some sp.name else none
  getByName name := .ok (if name = sp.name then some sp else none)
  getByID id := .ok (if id = sp.id then some sp else none)
  getState id := if id = sp.id then some status else none
  sp _ := result
  contextEnded := false
  publish := true
  publishCE := true
  retryConsumer := false
  fetchAll _ _ := ⟨[], List.nodup_nil, false⟩
  acknowledged := true
  numDelivered := some 1

end RoutingSharedState
