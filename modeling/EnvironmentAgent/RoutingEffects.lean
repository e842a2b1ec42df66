import EnvironmentAgent.AtomicPrograms
import EnvironmentAgent.RoutingCloudEvent
import Mathlib.Data.Nat.Notation
import Mathlib.Data.Sigma.Basic

/-! # Effects of the routing subsystem

What the router, the retry processor and the message handlers do to state they share or do not
own. Set and lock operations are the methods of `RoutingResourceSet`; all others are answered by
their owners. -/
namespace RoutingEffects

open AtomicPrograms RoutingCloudEvent

inductive ProviderStatus where
  | ready
  | unhealthy
  | unavailable
  deriving DecidableEq, Repr

structure StoredProvider where
  id : String
  name : String
  endpoint : String
  serviceType : String
  type : String
  deriving DecidableEq, Repr

structure CreateResourceRequest where
  resourceID : String
  serviceType : String
  spec : Option JsonValue
  eventID : String
  deriving DecidableEq, Repr

structure DeleteResourceRequest where
  resourceID : String
  serviceType : String
  eventID : String
  deriving DecidableEq, Repr

/-- `*SPResponseError`, `*forwarderError`, or an error without a status code. -/
inductive SPError where
  | response (statusCode : ℤ) (message : String)
  | forwarder (statusCode : ℤ) (message : String)
  | plain (message : String)
  deriving DecidableEq, Repr

/-- How a provider call ends. A panic unwinds into the caller's deferred calls. -/
inductive SPResult where
  | ok
  | err (e : SPError)
  | panicked
  deriving DecidableEq, Repr

inductive SPCall where
  | create (endpoint : String) (embedded : Bool) (req : CreateResourceRequest)
  | delete (endpoint : String) (embedded : Bool) (req : DeleteResourceRequest)
  deriving DecidableEq, Repr

def SPCall.resourceID : SPCall → String
  | .create _ _ req => req.resourceID
  | .delete _ _ req => req.resourceID

/-- What `fetchAllFromConsumer` returns: the collected messages, and whether it failed.
The messages of one fetch are distinct deliveries. -/
structure FetchResult where
  msgs : List Msg
  distinct : (msgs.map Msg.seq).Nodup
  failed : Bool
  deriving DecidableEq

inductive Ledger where
  | denyList
  | claimedResourcesSet
  deriving DecidableEq, Repr

inductive Op where
  | add (l : Ledger) (r : String)
  | addIfAbsent (l : Ledger) (r : String)
  | contains (l : Ledger) (r : String)
  | consume (l : Ledger) (r : String)
  | remove (l : Ledger) (r : String)
  | lockAddIfAbsent (r : String)
  | lockRemove (r : String)
  | lookup (serviceType : String)
  | getByName (name : String)
  | getByID (id : String)
  | getState (providerID : String)
  | sp (c : SPCall)
  | ctxErr
  | backoffTimer (attempt : ℕ)
  | publish (subject : String) (data : Bytes)
  | publishCE (ceType : String) (data : ResponseData)
  | retryConsumer
  | fetchAll (stream consumer : String)
  | inProgress (m : Msg)
  | ack (m : Msg)
  | nak (m : Msg)
  | nakWithDelay (m : Msg)
  | term (m : Msg)
  | metadata (m : Msg)
  | rangeMap (keys : List String)
  deriving DecidableEq

/-- Booleans of publishes and acknowledgements mean success; `ctxErr` and `backoffTimer` answer
whether the context has ended; `rangeMap` answers the order of a `range` over a map. -/
abbrev Op.Ans : Op → Type
  | .add _ _ => Unit
  | .addIfAbsent _ _ => Bool
  | .contains _ _ => Bool
  | .consume _ _ => Bool
  | .remove _ _ => Unit
  | .lockAddIfAbsent _ => Bool
  | .lockRemove _ => Unit
  | .lookup _ => Option String
  | .getByName _ => Except String (Option StoredProvider)
  | .getByID _ => Except String (Option StoredProvider)
  | .getState _ => Option ProviderStatus
  | .sp _ => SPResult
  | .ctxErr => Bool
  | .backoffTimer _ => Bool
  | .publish _ _ => Bool
  | .publishCE _ _ => Bool
  | .retryConsumer => Bool
  | .fetchAll _ _ => FetchResult
  | .inProgress _ => Bool
  | .ack _ => Bool
  | .nak _ => Bool
  | .nakWithDelay _ => Bool
  | .term _ => Bool
  | .metadata _ => Option ℕ
  | .rangeMap keys => { order : List String // order.Perm keys }

instance : DecidableEq (Except String (Option StoredProvider))
  | .error e, .error e' => decidable_of_iff (e = e') (by simp)
  | .ok sp, .ok sp' => decidable_of_iff (sp = sp') (by simp)
  | .error _, .ok _ => isFalse nofun
  | .ok _, .error _ => isFalse nofun

instance (o : Op) : DecidableEq o.Ans := by
  cases o <;> infer_instance

abbrev routing : Signature := ⟨Op, Op.Ans⟩
abbrev Routine := Prog routing
abbrev RoutingEvent := AtomicPrograms.Event routing

instance : DecidableEq RoutingEvent := inferInstanceAs (DecidableEq ((o : Op) × o.Ans))

abbrev add (l : Ledger) (r : String) : Routine Unit := Prog.perform (S := routing) (.add l r)
abbrev addIfAbsent (l : Ledger) (r : String) : Routine Bool :=
  Prog.perform (S := routing) (.addIfAbsent l r)
abbrev contains (l : Ledger) (r : String) : Routine Bool :=
  Prog.perform (S := routing) (.contains l r)
abbrev consume (l : Ledger) (r : String) : Routine Bool :=
  Prog.perform (S := routing) (.consume l r)
abbrev remove (l : Ledger) (r : String) : Routine Unit := Prog.perform (S := routing) (.remove l r)
abbrev lockAddIfAbsent (r : String) : Routine Bool :=
  Prog.perform (S := routing) (.lockAddIfAbsent r)
abbrev lockRemove (r : String) : Routine Unit := Prog.perform (S := routing) (.lockRemove r)
abbrev lookup (serviceType : String) : Routine (Option String) :=
  Prog.perform (S := routing) (.lookup serviceType)
abbrev getByName (name : String) : Routine (Except String (Option StoredProvider)) :=
  Prog.perform (S := routing) (.getByName name)
abbrev getByID (id : String) : Routine (Except String (Option StoredProvider)) :=
  Prog.perform (S := routing) (.getByID id)
abbrev getState (providerID : String) : Routine (Option ProviderStatus) :=
  Prog.perform (S := routing) (.getState providerID)
abbrev spCall (c : SPCall) : Routine SPResult := Prog.perform (S := routing) (.sp c)
abbrev ctxErr : Routine Bool := Prog.perform (S := routing) .ctxErr
abbrev backoffTimer (attempt : ℕ) : Routine Bool :=
  Prog.perform (S := routing) (.backoffTimer attempt)
abbrev publish (subject : String) (data : Bytes) : Routine Bool :=
  Prog.perform (S := routing) (.publish subject data)
abbrev publishCE (ceType : String) (data : ResponseData) : Routine Bool :=
  Prog.perform (S := routing) (.publishCE ceType data)
abbrev retryConsumer : Routine Bool := Prog.perform (S := routing) .retryConsumer
abbrev fetchAll (stream consumer : String) : Routine FetchResult :=
  Prog.perform (S := routing) (.fetchAll stream consumer)
abbrev inProgress (m : Msg) : Routine Bool := Prog.perform (S := routing) (.inProgress m)
abbrev ack (m : Msg) : Routine Bool := Prog.perform (S := routing) (.ack m)
abbrev nak (m : Msg) : Routine Bool := Prog.perform (S := routing) (.nak m)
abbrev nakWithDelay (m : Msg) : Routine Bool := Prog.perform (S := routing) (.nakWithDelay m)
abbrev term (m : Msg) : Routine Bool := Prog.perform (S := routing) (.term m)
abbrev metadata (m : Msg) : Routine (Option ℕ) := Prog.perform (S := routing) (.metadata m)
abbrev rangeMap (keys : List String) : Routine { order : List String // order.Perm keys } :=
  Prog.perform (S := routing) (.rangeMap keys)

end RoutingEffects
