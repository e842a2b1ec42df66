import EnvironmentAgent.ProgramInterleavings

/-! # Setup, consumption and shutdown of the messaging client

`messaging/client.go`: `doSetup` and its background retry, `StartConsuming` and `Stop`, as
goroutines over the client's fields. The two mutexes block; the broker answers as it likes.
Creating a request consumer and draining the cancel topic are one step each. -/
namespace MessagingClient

open AtomicPrograms ProgramInterleavings

inductive LoopKind where
  | main
  | cancel
  deriving DecidableEq, Repr

structure ConsumeLoop where
  kind : LoopKind
  id : ℕ
  deriving DecidableEq, Repr

inductive SetupStep where
  | jetStream
  | retryStream
  | healthStream
  | mainConsumer
  | cancelConsumer
  | retryConsumer
  deriving DecidableEq, Repr

inductive Op where
  | setupMuLock
  | setupMuUnlock
  | muLock
  | muUnlock
  | setupDone
  | setSetupDone
  | retrying
  | setRetrying (b : Bool)
  | stopped
  | storeStopped
  | closeStopCh
  /-- The `select` of the retry loop; `true` when `stopCh` was received from. -/
  | retryWait
  | setupStep (s : SetupStep)
  | setMainCons
  | drainCancelTopic
  /-- `conn`, `js`, `mainCons` and `cancelCons` are assigned. -/
  | setHandles
  | consumeRequested
  | storeConsumeRequested
  | consuming
  /-- Whether both durable consumers are set. -/
  | consumersCreated
  /-- `Consume`; `none` is an error. -/
  | consume (k : LoopKind)
  | stopLoop (c : ConsumeLoop)
  | appendConsumers (cs : List ConsumeLoop)
  | setConsuming
  | onSetupReady
  | processOnRestart
  | goRetry
  | retryEntered
  | again
  /-- `stopOnce.Do`: `true` for the call that runs the body; the others return after it. -/
  | stopOnce
  | takeConsumers
  | conn
  | drain (c : ConsumeLoop)
  /-- Waits for a loop; `false` when the wait timed out. -/
  | closed (c : ConsumeLoop)
  | closeConn
  | stopReturned
  deriving DecidableEq, Repr

@[reducible] def Op.Ans : Op → Type
  | .setupDone | .retrying | .stopped | .retryWait | .setupStep _ | .consumeRequested | .consuming
  | .consumersCreated | .stopOnce | .conn | .closed _ => Bool
  | .consume _ => Option ConsumeLoop
  | .takeConsumers => List ConsumeLoop
  | _ => Unit

@[reducible] def messaging : Signature := ⟨Op, Op.Ans⟩

abbrev ClientEvent := Event messaging

abbrev Goroutine (α : Type) := Prog messaging α

def op (o : Op) : Goroutine o.Ans := Prog.perform (S := messaging) o

/-- `DeferConsume` and whether `SetOnSetupReady` was called. -/
structure ClientConfig where
  deferConsume : Bool
  onSetupReady : Bool
  deriving DecidableEq, Repr

def startLoops : Goroutine Bool := do
  match ← op (.consume .cancel) with
  | none => return false
  | some cancelCC =>
    match ← op (.consume .main) with
    | none =>
      op (.stopLoop cancelCC)
      return false
    | some mainCC =>
      if ← op .stopped then
        op (.stopLoop cancelCC)
        op (.stopLoop mainCC)
        return true
      else
        op (.appendConsumers [cancelCC, mainCC])
        op .setConsuming
        return true

def beginConsumingLocked : Goroutine Bool := do
  if ← op .consuming then return true
  else if ← op .stopped then return true
  else if ← op .consumersCreated then startLoops
  else return true

def beginConsuming : Goroutine Bool := do
  op .muLock
  beginConsumingLocked.ensure fun _ => op .muUnlock

def isConsuming : Goroutine Bool := do
  op .muLock
  (op .consuming).ensure fun _ => op .muUnlock

def startConsuming : Goroutine Unit := do
  op .storeConsumeRequested
  let _ ← beginConsuming

def onSetupReady : Goroutine Unit := do
  op .onSetupReady
  op .processOnRestart
  startConsuming

def checkConsuming : Goroutine Bool := do
  if ← op .consumeRequested then isConsuming else return true

def finishDeferred (cfg : ClientConfig) : Goroutine Bool := do
  if cfg.onSetupReady then onSetupReady
  checkConsuming

def finishSetup (cfg : ClientConfig) : Goroutine Bool := do
  if cfg.deferConsume then
    if ← op .consumeRequested then beginConsuming else finishDeferred cfg
  else beginConsuming

def setupSteps : List SetupStep → Goroutine Bool
  | [] => return true
  | s :: rest => do
    if ← op (.setupStep s) then setupSteps rest else return false

def assignHandles : Goroutine Bool := do
  op .muLock
  if ← op .stopped then
    op .muUnlock
    return false
  else
    op .setHandles
    op .muUnlock
    return true

def setupStreamsAndConsume (cfg : ClientConfig) : Goroutine Bool := do
  if ← setupSteps [.jetStream, .retryStream, .healthStream, .mainConsumer, .cancelConsumer,
      .retryConsumer] then
    op .muLock
    op .setMainCons
    op .muUnlock
    op .drainCancelTopic
    if ← assignHandles then finishSetup cfg else return false
  else return false

def attemptSetupLocked (cfg : ClientConfig) : Goroutine Bool := do
  if ← op .setupDone then return true
  else if ← op .stopped then return true
  else if ← setupStreamsAndConsume cfg then
    op .setSetupDone
    return true
  else return false

def attemptSetup (cfg : ClientConfig) : Goroutine Bool := do
  op .setupMuLock
  (attemptSetupLocked cfg).ensure fun _ => op .setupMuUnlock

def doSetup (cfg : ClientConfig) : Goroutine Unit := do
  if ← attemptSetup cfg then return ()
  else
    op .setupMuLock
    let alreadyRetrying ← op .retrying
    op (.setRetrying true)
    op .setupMuUnlock
    if !alreadyRetrying then op .goRetry

def leaveRetry : Goroutine Unit := do
  op .setupMuLock
  op (.setRetrying false)
  op .setupMuUnlock

def retrySetupInBackground (cfg : ClientConfig) : Goroutine Unit := do
  op .retryEntered
  if ← op .retryWait then leaveRetry
  else if ← attemptSetup cfg then leaveRetry
  else op .again

def shutdown : Goroutine Unit := do
  op .storeStopped
  op .closeStopCh
  op .muLock
  let consumers ← op .takeConsumers
  let conn ← op .conn
  op .muUnlock
  Prog.each consumers fun cc => op (.drain cc)
  -- bounded by the drain timeout, then once more for handlers still in flight
  Prog.each consumers fun cc => do let _ ← op (.closed cc)
  Prog.each consumers fun cc => do let _ ← op (.closed cc)
  if conn then op .closeConn
  op .stopReturned

def stop : Goroutine Unit := do
  if ← op .stopOnce then shutdown

/-- The counts are there for the specification only. -/
structure ClientState where
  setupMu : Bool
  mu : Bool
  setupDone : Bool
  retrying : Bool
  stopped : Bool
  stopChClosed : Bool
  consumeRequested : Bool
  consuming : Bool
  conn : Bool
  mainCons : Bool
  cancelCons : Bool
  consumers : List ConsumeLoop
  loops : List ConsumeLoop
  nextLoop : ℕ
  /-- Retry goroutines that are started and have not entered their next round. -/
  starting : ℕ
  stopOnce : Bool
  stopReturned : Bool
  fired : ℕ
  retryLoops : ℕ
  taken : Bool
  deriving DecidableEq, Repr

def newClient : ClientState where
  setupMu := false
  mu := false
  setupDone := false
  retrying := false
  stopped := false
  stopChClosed := false
  consumeRequested := false
  consuming := false
  conn := false
  mainCons := false
  cancelCons := false
  consumers := []
  loops := []
  nextLoop := 0
  starting := 0
  stopOnce := false
  stopReturned := false
  fired := 0
  retryLoops := 0
  taken := false

namespace ClientState

/-- The answers an operation may get. An operation without one waits. -/
def Admits (s : ClientState) : (o : Op) → o.Ans → Prop
  | .setupMuLock, _ => s.setupMu = false
  | .muLock, _ => s.mu = false
  | .setupDone, x => x = s.setupDone
  | .retrying, x => x = s.retrying
  | .stopped, x => x = s.stopped
  | .retryWait, x => x = true → s.stopChClosed = true
  | .consumeRequested, x => x = s.consumeRequested
  | .consuming, x => x = s.consuming
  | .consumersCreated, x => x = (s.mainCons && s.cancelCons)
  | .consume k, x => ∀ c ∈ x, c = ⟨k, s.nextLoop⟩
  | .retryEntered, _ => 0 < s.starting
  | .stopOnce, x => if x then s.stopOnce = false else s.stopReturned = true
  | .takeConsumers, x => x = s.consumers
  | .conn, x => x = s.conn
  | _, _ => True

def effect (s : ClientState) : (o : Op) → o.Ans → ClientState
  | .setupMuLock, _ => { s with setupMu := true }
  | .setupMuUnlock, _ => { s with setupMu := false }
  | .muLock, _ => { s with mu := true }
  | .muUnlock, _ => { s with mu := false }
  | .setSetupDone, _ => { s with setupDone := true }
  | .setRetrying b, _ =>
    { s with retrying := b, retryLoops := if b then s.retryLoops else s.retryLoops - 1 }
  | .storeStopped, _ => { s with stopped := true }
  | .closeStopCh, _ => { s with stopChClosed := true }
  | .setMainCons, _ => { s with mainCons := true }
  | .setHandles, _ => { s with conn := true, mainCons := true, cancelCons := true }
  | .storeConsumeRequested, _ => { s with consumeRequested := true }
  | .consume _, x =>
    { s with loops := s.loops ++ x.toList, nextLoop := s.nextLoop + x.toList.length }
  | .stopLoop c, _ => { s with loops := s.loops.erase c }
  | .appendConsumers cs, _ => { s with consumers := s.consumers ++ cs }
  | .setConsuming, _ => { s with consuming := true }
  | .onSetupReady, _ => { s with fired := s.fired + 1 }
  | .goRetry, _ => { s with starting := s.starting + 1, retryLoops := s.retryLoops + 1 }
  | .retryEntered, _ => { s with starting := s.starting - 1 }
  | .again, _ => { s with starting := s.starting + 1 }
  | .stopOnce, x => { s with stopOnce := s.stopOnce || x }
  | .takeConsumers, _ => { s with consumers := [], taken := true }
  | .closed c, x => { s with loops := if x then s.loops.erase c else s.loops }
  | .closeConn, _ => { s with loops := [] }
  | .stopReturned, _ => { s with stopReturned := true }
  | _, _ => s

end ClientState

def started (cfg : ClientConfig) : ClientEvent → List (Goroutine Unit)
  | ⟨.goRetry, _⟩ | ⟨.again, _⟩ => [retrySetupInBackground cfg]
  | _ => []

def clientSemantics (cfg : ClientConfig) : Semantics messaging ClientState Unit where
  act o s x s' := s.Admits o x ∧ s' = s.effect o x
  spawn := started cfg

/-- What other code calls: setup on each connect and reconnect, and `Stop`. -/
inductive Call where
  | doSetup
  | stop
  deriving DecidableEq, Repr

def Call.routine (cfg : ClientConfig) : Call → Goroutine Unit
  | .doSetup => MessagingClient.doSetup cfg
  | .stop => MessagingClient.stop

end MessagingClient
