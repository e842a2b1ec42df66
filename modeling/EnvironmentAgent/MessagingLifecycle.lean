import EnvironmentAgent.ExclusiveOwnership
import EnvironmentAgent.MessagingClient

/-! # The lifecycle of the messaging client

Connects and reconnects start setups at any time, a failed setup is retried in the background, and
`Stop` may come in between. -/
namespace MessagingLifecycle

open AtomicPrograms ProgramInterleavings ExclusiveOwnership MessagingClient

/-- What a goroutine that holds `mu` has read of the fields, then the loops it has started. -/
inductive MuPhase where
  | outside
  | held
  | idle
  | open
  | ready
  | cancel (c : ConsumeLoop)
  | both (c m : ConsumeLoop)
  | unstopped (c m : ConsumeLoop)
  | appended (c m : ConsumeLoop)
  | main (m : ConsumeLoop)
  deriving DecidableEq, Repr

inductive SetupPhase where
  | outside
  | held
  /-- `setupDone` was read as unset. -/
  | fresh
  | created
  /-- Consumption was not requested before. -/
  | asked
  | fired
  | requested
  /-- Setup may report success. -/
  | settled
  deriving DecidableEq, Repr

inductive RetryPhase where
  | none
  | vacant
  | busy
  | pending
  | running
  deriving DecidableEq, Repr

inductive StopPhase where
  | none
  | won
  | stored
  | taken
  | read (conn : Bool)
  | closed
  deriving DecidableEq, Repr

structure Local where
  mu : MuPhase
  setup : SetupPhase
  retry : RetryPhase
  stop : StopPhase
  deriving DecidableEq, Repr

def fresh : Local := ⟨.outside, .outside, .none, .none⟩

def muNext (p : MuPhase) : ClientEvent → MuPhase
  | ⟨.muLock, _⟩ => .held
  | ⟨.muUnlock, _⟩ => .outside
  | ⟨.consuming, b⟩ => if b then p else .idle
  | ⟨.stopped, b⟩ => match p with
    | .idle => if b then .idle else .open
    | .both c d => if b then .both c d else .unstopped c d
    | p => p
  | ⟨.consumersCreated, b⟩ => if b then .ready else p
  | ⟨.consume _, some d⟩ => match p with
    | .cancel c => .both c d
    | _ => .cancel d
  | ⟨.stopLoop _, _⟩ => match p with
    | .both _ d => .main d
    | _ => .held
  | ⟨.appendConsumers _, _⟩ => match p with
    | .unstopped c d => .appended c d
    | p => p
  | ⟨.setConsuming, _⟩ => .held
  | _ => p

def SetupPhase.settle : SetupPhase → SetupPhase
  | .created | .asked | .requested => .settled
  | p => p

def setupNext (p : SetupPhase) : ClientEvent → SetupPhase
  | ⟨.setupMuLock, _⟩ => .held
  | ⟨.setupMuUnlock, _⟩ => .outside
  | ⟨.setupDone, b⟩ => if b then p else .fresh
  | ⟨.setHandles, _⟩ => .created
  | ⟨.consumeRequested, b⟩ => if b then p else if p = .created then .asked else .settled
  | ⟨.onSetupReady, _⟩ => .fired
  | ⟨.storeConsumeRequested, _⟩ => .requested
  | ⟨.consuming, b⟩ | ⟨.stopped, b⟩ => if b then p.settle else p
  | ⟨.consumersCreated, b⟩ => if b then p else p.settle
  | ⟨.setConsuming, _⟩ => p.settle
  | ⟨.setSetupDone, _⟩ => .held
  | _ => p

def retryNext (p : RetryPhase) : ClientEvent → RetryPhase
  | ⟨.retrying, b⟩ => if b then .busy else .vacant
  | ⟨.setRetrying true, _⟩ => if p = .vacant then .pending else .none
  | ⟨.setRetrying false, _⟩ | ⟨.goRetry, _⟩ | ⟨.again, _⟩ => .none
  | ⟨.retryEntered, _⟩ => .running
  | _ => p

def stopNext (p : StopPhase) : ClientEvent → StopPhase
  | ⟨.stopOnce, b⟩ => if b then .won else p
  | ⟨.storeStopped, _⟩ => .stored
  | ⟨.takeConsumers, _⟩ => .taken
  | ⟨.conn, b⟩ => .read b
  | ⟨.closeConn, _⟩ => .closed
  | _ => p

def Allowed (cfg : ClientConfig) (m : Local) : Op → Prop
  | .muLock => m.mu = .outside
  | .muUnlock => m.mu = .held ∨ m.mu = .idle ∨ m.mu = .open ∨ m.mu = .ready
  | .consuming | .setMainCons => m.mu = .held
  | .setHandles => m.mu = .held ∧ m.setup = .fresh
  | .consumersCreated => m.mu = .open
  | .consume .cancel => m.mu = .ready
  | .consume .main => ∃ c, m.mu = .cancel c
  | .stopLoop x => m.mu = .cancel x ∨ (∃ y, m.mu = .both x y) ∨ m.mu = .main x
  | .appendConsumers cs => ∃ c d, m.mu = .unstopped c d ∧ cs = [c, d]
  | .setConsuming => ∃ c d, m.mu = .appended c d
  | .setupMuLock => m.setup = .outside
  | .setupMuUnlock => (m.setup ≠ .outside ∧ m.setup ≠ .fired) ∧ m.retry ≠ .vacant ∧ m.retry ≠ .busy
  | .setupDone => m.setup = .held
  | .setSetupDone => m.setup = .settled
  | .consumeRequested => (m.setup = .created ∨ m.setup = .asked ∨ m.setup = .requested ∨
      m.setup = .settled) ∧ cfg.deferConsume = true
  | .storeConsumeRequested => m.setup = .fired
  | .onSetupReady => m.setup = .asked
  | .retrying => m.setup ≠ .outside ∧ m.retry = .none
  | .setRetrying true => m.retry = .vacant ∨ m.retry = .busy
  | .setRetrying false => m.setup ≠ .outside ∧ m.retry = .running
  | .goRetry => m.retry = .pending
  | .retryEntered => m.retry = .none
  | .again => m.retry = .running
  | .stopOnce => m.stop = .none
  | .storeStopped => m.stop = .won
  | .takeConsumers => m.mu = .held ∧ m.stop = .stored
  | .conn => m.mu = .held ∧ m.stop = .taken
  | .closed _ | .closeConn => ∃ b, m.stop = .read b
  | .stopReturned => m.stop = .read false ∨ m.stop = .closed
  | _ => True

def lifecycle (cfg : ClientConfig) : Monitor messaging Local where
  allowed := Allowed cfg
  next m e := ⟨muNext m.mu e, setupNext m.setup e, retryNext m.retry e, stopNext m.stop e⟩

section Goroutines

variable {cfg : ClientConfig} {p : SetupPhase} {r : RetryPhase} {q : StopPhase}

def after (ok : Bool) (p : SetupPhase) : SetupPhase := if ok then .settled else p

theorem startLoops_follows (hp : p = .created ∨ p = .requested) :
    Follows (lifecycle cfg) startLoops ⟨.ready, p, r, q⟩ fun out m =>
      ∃ ok, out = some ok ∧ (m.mu = .held ∨ m.mu = .ready) ∧
        m = ⟨m.mu, after ok p, r, q⟩ := by
  refine ⟨rfl, fun started => ?_⟩
  rcases started with _ | c
  · exact ⟨false, rfl, Or.inr rfl, rfl⟩
  · refine ⟨⟨c, rfl⟩, fun started => ?_⟩
    rcases started with _ | d
    · exact ⟨Or.inl rfl, fun _ => ⟨false, rfl, Or.inl rfl, rfl⟩⟩
    · refine ⟨trivial, fun stopped => ?_⟩
      cases stopped with
      | true =>
        refine ⟨Or.inr (Or.inl ⟨d, rfl⟩), fun _ => ⟨Or.inr (Or.inr rfl), fun _ => ?_⟩⟩
        rcases hp with rfl | rfl <;> exact ⟨true, rfl, Or.inl rfl, rfl⟩
      | false =>
        refine ⟨⟨c, d, rfl, rfl⟩, fun _ => ⟨⟨c, d, rfl⟩, fun _ => ?_⟩⟩
        rcases hp with rfl | rfl <;> exact ⟨true, rfl, Or.inl rfl, rfl⟩

theorem beginConsumingLocked_follows (hp : p = .created ∨ p = .requested) :
    Follows (lifecycle cfg) beginConsumingLocked ⟨.held, p, r, q⟩ fun out m =>
      ∃ ok, out = some ok ∧ (m.mu = .held ∨ m.mu = .idle ∨ m.mu = .open ∨ m.mu = .ready) ∧
        m = ⟨m.mu, after ok p, r, q⟩ := by
  refine ⟨rfl, fun consuming => ?_⟩
  cases consuming with
  | true => rcases hp with rfl | rfl <;> exact ⟨true, rfl, Or.inl rfl, rfl⟩
  | false =>
    refine ⟨trivial, fun stopped => ?_⟩
    cases stopped with
    | true => rcases hp with rfl | rfl <;> exact ⟨true, rfl, Or.inr (Or.inl rfl), rfl⟩
    | false =>
      refine ⟨rfl, fun created => ?_⟩
      cases created with
      | false =>
        rcases hp with rfl | rfl <;> exact ⟨true, rfl, Or.inr (Or.inr (Or.inl rfl)), rfl⟩
      | true =>
        refine (startLoops_follows hp).mono ?_
        rintro out m ⟨ok, rfl, hmu, hm⟩
        exact ⟨ok, rfl, hmu.elim Or.inl fun h => Or.inr (Or.inr (Or.inr h)), hm⟩

theorem beginConsuming_follows (hp : p = .created ∨ p = .requested) :
    Follows (lifecycle cfg) beginConsuming ⟨.outside, p, r, q⟩ fun out m =>
      ∃ ok, out = some ok ∧ m = ⟨.outside, after ok p, r, q⟩ := by
  refine ⟨rfl, fun _ => ?_⟩
  refine follows_ensure.mpr ((beginConsumingLocked_follows hp).mono ?_)
  rintro out m ⟨ok, rfl, hmu, hm⟩
  rw [hm]
  exact ⟨hmu, fun _ => ⟨ok, rfl, rfl⟩⟩

theorem isConsuming_follows :
    Follows (lifecycle cfg) isConsuming ⟨.outside, p, r, q⟩ fun out m =>
      ∃ b, out = some b ∧ m = ⟨.outside, if b then p.settle else p, r, q⟩ := by
  refine ⟨rfl, fun _ => follows_ensure.mpr ⟨rfl, fun b => ?_⟩⟩
  cases b with
  | true => exact ⟨Or.inl rfl, fun _ => ⟨true, rfl, rfl⟩⟩
  | false => exact ⟨Or.inr (Or.inl rfl), fun _ => ⟨false, rfl, rfl⟩⟩

def Attempted (r : RetryPhase) (q : StopPhase) (out : Option Bool) (m : Local) : Prop :=
  ∃ ok p, out = some ok ∧ m = ⟨.outside, p, r, q⟩ ∧ (p ≠ .outside ∧ p ≠ .fired) ∧
    (ok = true → p = .settled)

theorem attempted_after (hp : p ≠ .outside ∧ p ≠ .fired) (ok : Bool) :
    Attempted r q (some ok) ⟨.outside, after ok p, r, q⟩ := by
  cases ok with
  | true => exact ⟨true, _, rfl, rfl, ⟨nofun, nofun⟩, fun _ => rfl⟩
  | false => exact ⟨false, p, rfl, rfl, hp, nofun⟩

theorem checkConsuming_follows (hdefer : cfg.deferConsume = true)
    (hp : p = .asked ∨ p = .requested ∨ p = .settled) :
    Follows (lifecycle cfg) checkConsuming ⟨.outside, p, r, q⟩ (Attempted r q) := by
  refine ⟨⟨Or.inr hp, hdefer⟩, fun requested => ?_⟩
  cases requested with
  | true =>
    refine (isConsuming_follows).mono ?_
    rintro _ _ ⟨b, rfl, rfl⟩
    cases b with
    | true =>
      rcases hp with rfl | rfl | rfl <;> exact ⟨true, _, rfl, rfl, ⟨nofun, nofun⟩, fun _ => rfl⟩
    | false => rcases hp with rfl | rfl | rfl <;> exact ⟨false, _, rfl, rfl, ⟨nofun, nofun⟩, nofun⟩
  | false =>
    rcases hp with rfl | rfl | rfl <;> exact ⟨true, _, rfl, rfl, ⟨nofun, nofun⟩, fun _ => rfl⟩

theorem onSetupReady_follows :
    Follows (lifecycle cfg) onSetupReady ⟨.outside, .asked, r, q⟩ fun out m =>
      out = some () ∧ ∃ ok, m = ⟨.outside, after ok .requested, r, q⟩ := by
  refine ⟨rfl, fun _ => ⟨trivial, fun _ => ⟨rfl, fun _ => ?_⟩⟩⟩
  change Follows _ (beginConsuming >>= _) _ _
  refine follows_bind.mpr ((beginConsuming_follows (Or.inr rfl)).mono ?_)
  rintro _ _ ⟨ok, rfl, rfl⟩
  exact ⟨rfl, ok, rfl⟩

theorem finishDeferred_follows (hdefer : cfg.deferConsume = true) :
    Follows (lifecycle cfg) (finishDeferred cfg) ⟨.outside, .asked, r, q⟩ (Attempted r q) := by
  unfold finishDeferred
  cases cfg.onSetupReady with
  | false => exact checkConsuming_follows hdefer (Or.inl rfl)
  | true =>
    refine follows_bind.mpr ((onSetupReady_follows).mono ?_)
    rintro _ _ ⟨rfl, ok, rfl⟩
    refine checkConsuming_follows hdefer (Or.inr ?_)
    cases ok with
    | true => exact Or.inr rfl
    | false => exact Or.inl rfl

theorem finishSetup_follows :
    Follows (lifecycle cfg) (finishSetup cfg) ⟨.outside, .created, r, q⟩ (Attempted r q) := by
  have begins : Follows (lifecycle cfg) beginConsuming ⟨.outside, .created, r, q⟩
      (Attempted r q) := by
    refine (beginConsuming_follows (Or.inl rfl)).mono ?_
    rintro _ _ ⟨ok, rfl, rfl⟩
    exact attempted_after (p := .created) ⟨nofun, nofun⟩ ok
  unfold finishSetup
  cases hdefer : cfg.deferConsume with
  | false => exact begins
  | true =>
    refine ⟨⟨Or.inl rfl, hdefer⟩, fun requested => ?_⟩
    cases requested with
    | true => exact begins
    | false => exact finishDeferred_follows hdefer

theorem setupSteps_follows (steps : List SetupStep) {m : Local} :
    Follows (lifecycle cfg) (setupSteps steps) m fun out m' => (∃ b, out = some b) ∧ m' = m := by
  induction steps with
  | nil => exact ⟨⟨true, rfl⟩, rfl⟩
  | cons s rest ih =>
    refine ⟨trivial, fun b => ?_⟩
    cases b with
    | true => exact ih
    | false => exact ⟨⟨false, rfl⟩, rfl⟩

theorem assignHandles_follows :
    Follows (lifecycle cfg) assignHandles ⟨.outside, .fresh, r, q⟩ fun out m =>
      ∃ b, out = some b ∧ m = ⟨.outside, if b then .created else .fresh, r, q⟩ := by
  refine ⟨rfl, fun _ => ⟨trivial, fun stopped => ?_⟩⟩
  cases stopped with
  | true => exact ⟨Or.inl rfl, fun _ => ⟨false, rfl, rfl⟩⟩
  | false => exact ⟨⟨rfl, rfl⟩, fun _ => ⟨Or.inl rfl, fun _ => ⟨true, rfl, rfl⟩⟩⟩

theorem setupStreamsAndConsume_follows :
    Follows (lifecycle cfg) (setupStreamsAndConsume cfg) ⟨.outside, .fresh, r, q⟩
      (Attempted r q) := by
  refine follows_bind.mpr ((setupSteps_follows _).mono ?_)
  rintro _ _ ⟨⟨b, rfl⟩, rfl⟩
  cases b with
  | false => exact ⟨false, _, rfl, rfl, ⟨nofun, nofun⟩, nofun⟩
  | true =>
    refine ⟨rfl, fun _ => ⟨rfl, fun _ => ⟨Or.inl rfl, fun _ => ⟨trivial, fun _ => ?_⟩⟩⟩⟩
    change Follows _ (assignHandles >>= _) _ _
    refine follows_bind.mpr ((assignHandles_follows).mono ?_)
    rintro _ _ ⟨b, rfl, rfl⟩
    cases b with
    | false => exact ⟨false, _, rfl, rfl, ⟨nofun, nofun⟩, nofun⟩
    | true => exact finishSetup_follows

theorem attemptSetup_follows (hr : r ≠ .vacant ∧ r ≠ .busy) :
    Follows (lifecycle cfg) (attemptSetup cfg) ⟨.outside, .outside, r, q⟩ fun out m =>
      (∃ ok, out = some ok) ∧ m = ⟨.outside, .outside, r, q⟩ := by
  have locked : Follows (lifecycle cfg) (attemptSetupLocked cfg) ⟨.outside, .held, r, q⟩
      fun out m => (∃ ok, out = some ok) ∧
        ∃ p, (p ≠ .outside ∧ p ≠ .fired) ∧ m = ⟨.outside, p, r, q⟩ := by
    refine ⟨rfl, fun done => ?_⟩
    cases done with
    | true => exact ⟨⟨true, rfl⟩, .held, ⟨nofun, nofun⟩, rfl⟩
    | false =>
      refine ⟨trivial, fun stopped => ?_⟩
      cases stopped with
      | true => exact ⟨⟨true, rfl⟩, .fresh, ⟨nofun, nofun⟩, rfl⟩
      | false =>
        change Follows _ (setupStreamsAndConsume cfg >>= _) _ _
        refine follows_bind.mpr ((setupStreamsAndConsume_follows).mono ?_)
        rintro _ _ ⟨ok, p, rfl, rfl, hp, hsettled⟩
        cases ok with
        | true =>
          obtain rfl := hsettled rfl
          exact ⟨rfl, fun _ => ⟨⟨true, rfl⟩, .held, ⟨nofun, nofun⟩, rfl⟩⟩
        | false => exact ⟨⟨false, rfl⟩, p, hp, rfl⟩
  refine ⟨rfl, fun _ => follows_ensure.mpr (locked.mono ?_)⟩
  rintro _ _ ⟨⟨ok, rfl⟩, p, hp, rfl⟩
  exact ⟨⟨hp, hr⟩, fun _ => ⟨⟨ok, rfl⟩, rfl⟩⟩

theorem doSetup_follows : Follows (lifecycle cfg) (doSetup cfg) fresh fun _ _ => True := by
  refine follows_bind.mpr
    ((attemptSetup_follows (r := .none) (q := .none) ⟨nofun, nofun⟩).mono ?_)
  rintro _ _ ⟨⟨ok, rfl⟩, rfl⟩
  cases ok with
  | true => trivial
  | false =>
    refine ⟨rfl, fun _ => ⟨⟨nofun, rfl⟩, fun alreadyRetrying => ?_⟩⟩
    cases alreadyRetrying with
    | true => exact ⟨Or.inr rfl, fun _ => ⟨⟨⟨nofun, nofun⟩, nofun, nofun⟩, fun _ => trivial⟩⟩
    | false =>
      refine ⟨Or.inl rfl, fun _ => ⟨⟨⟨nofun, nofun⟩, nofun, nofun⟩, fun _ => ?_⟩⟩
      exact ⟨rfl, fun _ => trivial⟩

theorem leaveRetry_follows :
    Follows (lifecycle cfg) leaveRetry ⟨.outside, .outside, .running, .none⟩ fun _ _ => True :=
  ⟨rfl, fun _ => ⟨⟨nofun, rfl⟩, fun _ => ⟨⟨⟨nofun, nofun⟩, nofun, nofun⟩, fun _ => trivial⟩⟩⟩

theorem retrySetupInBackground_follows :
    Follows (lifecycle cfg) (retrySetupInBackground cfg) fresh fun _ _ => True := by
  refine ⟨rfl, fun _ => ⟨trivial, fun stopped => ?_⟩⟩
  cases stopped with
  | true => exact leaveRetry_follows
  | false =>
    change Follows _ (attemptSetup cfg >>= _) _ _
    refine follows_bind.mpr
      ((attemptSetup_follows (r := .running) (q := .none) ⟨nofun, nofun⟩).mono ?_)
    rintro _ _ ⟨⟨ok, rfl⟩, rfl⟩
    cases ok with
    | true => exact leaveRetry_follows
    | false => exact ⟨rfl, fun _ => trivial⟩

theorem each_follows {f : ConsumeLoop → Goroutine Unit} {b : Bool} (cs : List ConsumeLoop)
    (hf : ∀ c, Preserves (lifecycle cfg) (· = ⟨.outside, .outside, .none, .read b⟩) (f c)) :
    Follows (lifecycle cfg) (Prog.each cs f) ⟨.outside, .outside, .none, .read b⟩ fun _ m =>
      m = ⟨.outside, .outside, .none, .read b⟩ :=
  Preserves.each (fun c _ => hf c) _ rfl

theorem stop_follows : Follows (lifecycle cfg) stop fresh fun _ _ => True := by
  refine ⟨rfl, fun first => ?_⟩
  cases first with
  | false => trivial
  | true =>
    refine ⟨rfl, fun _ => ⟨trivial, fun _ => ⟨rfl, fun _ => ?_⟩⟩⟩
    refine ⟨⟨rfl, rfl⟩, fun consumers => ⟨⟨rfl, rfl⟩, fun conn => ?_⟩⟩
    refine ⟨Or.inl rfl, fun _ => ?_⟩
    have drains : ∀ c, Preserves (lifecycle cfg) (· = ⟨.outside, .outside, .none, .read conn⟩)
        (op (.drain c)) := by
      rintro c _ rfl
      exact ⟨trivial, fun _ => rfl⟩
    have closes : ∀ c, Preserves (lifecycle cfg) (· = ⟨.outside, .outside, .none, .read conn⟩)
        (do let _ ← op (.closed c)) := by
      rintro c _ rfl
      exact ⟨⟨conn, rfl⟩, fun _ => rfl⟩
    have waits := each_follows consumers closes
    change Follows _ (Prog.each consumers (fun c => op (.drain c)) >>= _) _ _
    refine follows_bind.mpr ((each_follows consumers drains).mono ?_)
    rintro (_ | _) _ rfl
    · trivial
    refine follows_bind.mpr (waits.mono ?_)
    rintro (_ | _) _ rfl
    · trivial
    refine follows_bind.mpr (waits.mono ?_)
    rintro (_ | _) _ rfl
    · trivial
    cases conn with
    | true => exact ⟨⟨true, rfl⟩, fun _ => ⟨Or.inr rfl, fun _ => trivial⟩⟩
    | false => exact ⟨Or.inl rfl, fun _ => trivial⟩

end Goroutines

def IsPair (c d : ConsumeLoop) : Prop := c.kind = .cancel ∧ d.kind = .main

structure Section (w : ClientState) (loops consumers : List ConsumeLoop) : Prop where
  consuming : w.consuming = false
  loops : w.loops = loops
  consumers : w.consumers = consumers
  taken : w.taken = false
  conn : w.conn = true

def MuKnows (w : ClientState) : MuPhase → Prop
  | .outside => True
  | .held => w.consuming = false → w.loops = [] ∧ w.consumers = []
  | .idle => w.consuming = false ∧ w.loops = [] ∧ w.consumers = []
  | .open => w.consuming = false ∧ w.loops = [] ∧ w.consumers = [] ∧ w.taken = false
  | .ready => Section w [] []
  | .cancel c => Section w [c] [] ∧ c.kind = .cancel
  | .both c d | .unstopped c d => Section w [c, d] [] ∧ IsPair c d
  | .appended c d => Section w [c, d] [c, d] ∧ IsPair c d
  | .main d => Section w [d] [] ∧ d.kind = .main

/-- The loops run, or the client is stopped, or nobody has asked for them. -/
def Settled (cfg : ClientConfig) (w : ClientState) : Prop :=
  w.consuming = true ∨ w.stopped = true ∨ cfg.deferConsume = true ∧ w.consumeRequested = false

structure Prepared (w : ClientState) : Prop where
  setupDone : w.setupDone = false
  mainCons : w.mainCons = true
  cancelCons : w.cancelCons = true

def SetupKnows (cfg : ClientConfig) (w : ClientState) : SetupPhase → Prop
  | .outside | .held => True
  | .fresh => w.setupDone = false
  | .created | .requested => Prepared w
  | .asked => Prepared w ∧ w.consumeRequested = false ∧ w.fired = 0
  | .fired => Prepared w ∧ w.consumeRequested = false
  | .settled => Prepared w ∧ Settled cfg w

def RetryKnows (w : ClientState) (m : Local) : Prop :=
  match m.retry with
  | .none => True
  | .vacant => m.setup ≠ .outside ∧ w.retrying = false
  | .busy => m.setup ≠ .outside ∧ w.retrying = true
  | .pending => w.retryLoops = 0
  | .running => w.retryLoops = 1

def StopKnows (w : ClientState) : StopPhase → Prop
  | .none | .won => True
  | .stored => w.stopped = true
  | .taken => w.taken = true
  | .read conn => w.taken = true ∧ (conn = false → w.loops = [])
  | .closed => w.taken = true ∧ w.loops = []

structure MuShared (w : ClientState) : Prop where
  free : w.mu = false → w.consuming = false → w.loops = [] ∧ w.consumers = []
  conn : w.consuming = true ∨ w.cancelCons = true → w.conn = true
  pair : w.consuming = true → ∃ c d, IsPair c d ∧ w.loops.Sublist [c, d] ∧
    (w.taken = false → w.loops = [c, d] ∧ w.consumers = [c, d])
  stopped : w.taken = true → w.stopped = true
  returned : w.stopReturned = true → w.taken = true ∧ w.loops = []

structure RetryShared (w : ClientState) : Prop where
  starting : w.starting ≤ 1
  started : 0 < w.starting → w.retrying = true ∧ w.retryLoops = 1
  idle : w.retrying = false → w.retryLoops = 0

def HoldsMu (m : Local) : Prop := m.mu ≠ .outside
def HoldsSetup (m : Local) : Prop := m.setup ≠ .outside
def HoldsRetry (m : Local) : Prop := m.retry = .pending ∨ m.retry = .running

structure Invariant (cfg : ClientConfig) (w : ClientState) (ms : ℕ → Local) : Prop where
  muOwned : Owned HoldsMu (w.mu = true) ms
  setupOwned : Owned HoldsSetup (w.setupMu = true) ms
  retryOwned : Owned HoldsRetry (w.retrying = true ∧ w.starting = 0) ms
  mu : ∀ i, MuKnows w (ms i).mu
  setup : ∀ i, SetupKnows cfg w (ms i).setup
  retry : ∀ i, RetryKnows w (ms i)
  stop : ∀ i, StopKnows w (ms i).stop
  muShared : MuShared w
  retryShared : RetryShared w
  done : w.setupDone = true → Settled cfg w
  fired : w.fired ≤ 1
  firedBy : 0 < w.fired → w.consumeRequested = true ∨ ∃ i, (ms i).setup = .fired

theorem invariant_newClient (cfg : ClientConfig) : Invariant cfg newClient fun _ => fresh where
  muOwned := .free (fun _ h => h rfl) nofun
  setupOwned := .free (fun _ h => h rfl) nofun
  retryOwned := .free (fun _ h => h.elim nofun nofun) nofun
  mu _ := trivial
  setup _ := trivial
  retry _ := trivial
  stop _ := trivial
  muShared := ⟨fun _ _ => ⟨rfl, rfl⟩, nofun, nofun, nofun, nofun⟩
  retryShared := ⟨Nat.zero_le 1, nofun, fun _ => rfl⟩
  done := nofun
  fired := Nat.zero_le 1
  firedBy := nofun

section Step

variable {cfg : ClientConfig} {w w' : ClientState} {m : Local} {o : Op} {x : o.Ans}

theorem effect_mu (h : o ≠ .muLock) (h' : o ≠ .muUnlock) : (w.effect o x).mu = w.mu := by
  cases o <;> first | rfl | contradiction

theorem effect_setupMu (h : o ≠ .setupMuLock) (h' : o ≠ .setupMuUnlock) :
    (w.effect o x).setupMu = w.setupMu := by
  cases o <;> first | rfl | contradiction

theorem holdsMu_next (ha : Allowed cfg m o) (h : o ≠ .muLock) (h' : o ≠ .muUnlock) :
    HoldsMu ((lifecycle cfg).next m ⟨o, x⟩) ↔ HoldsMu m := by
  obtain ⟨p, _, _, _⟩ := m
  cases o with
  | consuming | consumersCreated =>
    obtain rfl : p = _ := ha
    cases x <;> exact iff_of_true nofun nofun
  | stopped => cases p <;> cases x <;> first | exact Iff.rfl | exact iff_of_true nofun nofun
  | consume k =>
    cases k with
    | cancel =>
      obtain rfl : p = _ := ha
      cases x <;> exact iff_of_true nofun nofun
    | main =>
      obtain ⟨c, rfl⟩ : ∃ c, p = _ := ha
      cases x <;> exact iff_of_true nofun nofun
  | stopLoop c =>
    obtain rfl | ⟨d, rfl⟩ | rfl : p = _ ∨ (∃ d, p = _) ∨ p = _ := ha <;>
      exact iff_of_true nofun nofun
  | appendConsumers =>
    obtain ⟨c, d, rfl, -⟩ : ∃ c d, p = _ ∧ _ := ha
    exact iff_of_true nofun nofun
  | setConsuming =>
    obtain ⟨c, d, rfl⟩ : ∃ c d, p = _ := ha
    exact iff_of_true nofun nofun
  | muLock | muUnlock => contradiction
  | _ => exact Iff.rfl

theorem settle_eq_outside (p : SetupPhase) : p.settle ≠ .outside ↔ p ≠ .outside := by
  cases p <;> first | exact Iff.rfl | exact iff_of_true nofun nofun

theorem holdsSetup_next (ha : Allowed cfg m o) (h : o ≠ .setupMuLock) (h' : o ≠ .setupMuUnlock) :
    HoldsSetup ((lifecycle cfg).next m ⟨o, x⟩) ↔ HoldsSetup m := by
  obtain ⟨_, p, _, _⟩ := m
  cases o with
  | setupDone =>
    obtain rfl : p = _ := ha
    cases x <;> exact iff_of_true nofun nofun
  | setHandles =>
    obtain ⟨-, rfl⟩ : _ ∧ p = _ := ha
    exact iff_of_true nofun nofun
  | consumeRequested =>
    obtain ⟨rfl | rfl | rfl | rfl, -⟩ : (p = _ ∨ p = _ ∨ p = _ ∨ p = _) ∧ _ := ha <;>
      cases x <;> exact iff_of_true nofun nofun
  | onSetupReady | storeConsumeRequested | setSetupDone =>
    obtain rfl : p = _ := ha
    exact iff_of_true nofun nofun
  | consuming | stopped | consumersCreated =>
    cases x <;> first | exact Iff.rfl | exact settle_eq_outside p
  | setConsuming => exact settle_eq_outside p
  | setupMuLock | setupMuUnlock => contradiction
  | _ => exact Iff.rfl

structure MuFrame (w w' : ClientState) : Prop where
  consuming : w'.consuming = w.consuming
  consumers : w'.consumers = w.consumers
  taken : w'.taken = w.taken
  conn : w'.conn = w.conn
  loops : w'.loops = w.loops ∨ w.taken = true ∧ w'.loops.Sublist w.loops

theorem MuFrame.section {ls cs : List ConsumeLoop} (h : MuFrame w w') (hs : Section w ls cs) :
    Section w' ls cs where
  consuming := h.consuming.trans hs.consuming
  loops := by
    rcases h.loops with hl | ⟨ht, -⟩
    · exact hl.trans hs.loops
    · exact absurd (ht.symm.trans hs.taken) nofun
  consumers := h.consumers.trans hs.consumers
  taken := h.taken.trans hs.taken
  conn := h.conn.trans hs.conn

theorem MuFrame.loops_nil (h : MuFrame w w') (hl : w.loops = []) : w'.loops = [] := by
  rcases h.loops with h | ⟨-, h⟩
  · exact h.trans hl
  · rw [hl] at h
    exact List.sublist_nil.mp h

theorem MuFrame.knows (h : MuFrame w w') {p : MuPhase} (hp : MuKnows w p) : MuKnows w' p := by
  cases p with
  | outside => trivial
  | held =>
    intro hc
    obtain ⟨hl, hcs⟩ := hp (h.consuming.symm.trans hc)
    exact ⟨h.loops_nil hl, h.consumers.trans hcs⟩
  | idle => exact ⟨h.consuming.trans hp.1, h.loops_nil hp.2.1, h.consumers.trans hp.2.2⟩
  | «open» =>
    exact ⟨h.consuming.trans hp.1, h.loops_nil hp.2.1, h.consumers.trans hp.2.2.1,
      h.taken.trans hp.2.2.2⟩
  | ready => exact h.section hp
  | cancel | both | unstopped | appended | main => exact ⟨h.section hp.1, hp.2⟩

variable {q : StopPhase}

theorem taken_of_read (ha : ∃ b, q = .read b) (hs : StopKnows w q) :
    w.taken = true := by
  obtain ⟨b, rfl⟩ := ha
  exact hs.1

theorem closed_muFrame {c : ConsumeLoop} {b : Bool} (ha : ∃ b, q = .read b) (hs : StopKnows w q) :
    MuFrame w (w.effect (.closed c) b) := by
  refine ⟨rfl, rfl, rfl, rfl, Or.inr ⟨taken_of_read ha hs, ?_⟩⟩
  cases b with
  | false => exact List.Sublist.refl _
  | true => exact List.erase_sublist

theorem closeConn_muFrame (ha : ∃ b, q = .read b) (hs : StopKnows w q) :
    MuFrame w (w.effect .closeConn ()) :=
  ⟨rfl, rfl, rfl, rfl, Or.inr ⟨taken_of_read ha hs, List.nil_sublist _⟩⟩

theorem effect_muFrame (ha : Allowed cfg m o) (hm : m.mu = .outside)
    (hs : StopKnows w m.stop) : MuFrame w (w.effect o x) := by
  cases o with
  | setHandles | takeConsumers => exact absurd (hm.symm.trans ha.1) nofun
  | consume k =>
    cases k with
    | cancel => exact absurd (hm.symm.trans ha) nofun
    | main =>
      obtain ⟨c, hc⟩ := ha
      exact absurd (hm.symm.trans hc) nofun
  | stopLoop c => rcases ha with h | ⟨d, h⟩ | h <;> exact absurd (hm.symm.trans h) nofun
  | appendConsumers cs =>
    obtain ⟨c, d, h, -⟩ := ha
    exact absurd (hm.symm.trans h) nofun
  | setConsuming =>
    obtain ⟨c, d, h⟩ := ha
    exact absurd (hm.symm.trans h) nofun
  | closed c => exact closed_muFrame ha hs
  | closeConn => exact closeConn_muFrame ha hs
  | _ => exact ⟨rfl, rfl, rfl, rfl, Or.inl rfl⟩

theorem muKnows_step (ha : Allowed cfg m o) (hx : w.Admits o x) (hk : MuKnows w m.mu)
    (hs : StopKnows w m.stop) (hw : MuShared w) :
    MuKnows (w.effect o x) (muNext m.mu ⟨o, x⟩) := by
  obtain ⟨p, _, _, q⟩ := m
  dsimp only at hk ⊢
  cases o with
  | muLock => exact fun hc => hw.free hx hc
  | muUnlock => trivial
  | consuming =>
    obtain rfl : p = _ := ha
    cases x with
    | true => exact hk
    | false => exact ⟨hx.symm, hk hx.symm⟩
  | stopped =>
    cases p with
    | idle =>
      cases x with
      | true => exact hk
      | false =>
        refine ⟨hk.1, hk.2.1, hk.2.2, ?_⟩
        by_contra htaken
        exact nomatch hx.trans (hw.stopped ((Bool.not_eq_false _).mp htaken))
    | both => cases x <;> exact hk
    | _ => exact hk
  | consumersCreated =>
    obtain rfl : p = _ := ha
    cases x with
    | false => exact hk
    | true =>
      have hcreated := (Bool.and_eq_true _ _ ▸ hx.symm : w.mainCons = true ∧ w.cancelCons = true)
      exact ⟨hk.1, hk.2.1, hk.2.2.1, hk.2.2.2, hw.conn (Or.inr hcreated.2)⟩
  | consume k =>
    cases k with
    | cancel =>
      obtain rfl : p = _ := ha
      cases x with
      | none => exact { hk with loops := by simp [ClientState.effect, hk.loops] }
      | some c =>
        obtain rfl := hx c rfl
        exact ⟨{ hk with loops := by simp [ClientState.effect, hk.loops] }, rfl⟩
    | main =>
      obtain ⟨c, rfl⟩ : ∃ c, p = _ := ha
      obtain ⟨hk, hc⟩ := hk
      cases x with
      | none => exact ⟨{ hk with loops := by simp [ClientState.effect, hk.loops] }, hc⟩
      | some d =>
        obtain rfl := hx d rfl
        exact ⟨{ hk with loops := by simp [ClientState.effect, hk.loops] }, hc, rfl⟩
  | stopLoop c =>
    obtain rfl | ⟨d, rfl⟩ | rfl : p = _ ∨ (∃ d, p = _) ∨ p = _ := ha
    · exact fun _ => ⟨by simp [ClientState.effect, hk.1.loops], hk.1.consumers⟩
    · exact ⟨{ hk.1 with loops := by simp [ClientState.effect, hk.1.loops] }, hk.2.2⟩
    · exact fun _ => ⟨by simp [ClientState.effect, hk.1.loops], hk.1.consumers⟩
  | appendConsumers cs =>
    obtain ⟨c, d, rfl, rfl⟩ : ∃ c d, p = _ ∧ _ := ha
    exact ⟨{ hk.1 with consumers := by simp [ClientState.effect, hk.1.consumers] }, hk.2⟩
  | setConsuming => exact nofun
  | setHandles =>
    obtain ⟨rfl, -⟩ : p = _ ∧ _ := ha
    exact hk
  | takeConsumers =>
    obtain ⟨rfl, -⟩ : p = _ ∧ _ := ha
    exact fun hc => ⟨(hk hc).1, rfl⟩
  | closed c => exact (closed_muFrame ha hs).knows hk
  | closeConn => exact (closeConn_muFrame ha hs).knows hk
  | _ =>
    refine MuFrame.knows ?_ hk
    exact ⟨rfl, rfl, rfl, rfl, Or.inl rfl⟩

theorem MuShared.of_section {ls cs : List ConsumeLoop} (hs : Section w ls cs)
    (hw : MuShared w) (hmu : w.mu = true) {ls' cs' : List ConsumeLoop} {n : ℕ} :
    MuShared { w with loops := ls', consumers := cs', nextLoop := n } where
  free h := absurd (hmu.symm.trans h) nofun
  conn := hw.conn
  pair h := absurd (h.symm.trans hs.consuming) nofun
  stopped := hw.stopped
  returned h := absurd ((hw.returned h).1.symm.trans hs.taken) nofun

theorem MuShared.of_frame (h : MuFrame w w') (hw : MuShared w) (hmu : w'.mu = w.mu)
    (htaken : w.taken = true) (hcancel : w'.cancelCons = w.cancelCons)
    (hstopped : w'.stopped = w.stopped) (hreturned : w'.stopReturned = w.stopReturned) :
    MuShared w' where
  free h₁ h₂ := by
    obtain ⟨hl, hc⟩ := hw.free (hmu ▸ h₁) (h.consuming ▸ h₂)
    exact ⟨h.loops_nil hl, h.consumers.trans hc⟩
  conn := by
    rw [h.consuming, hcancel, h.conn]
    exact hw.conn
  pair hc := by
    obtain ⟨c, d, hpair, hsub, -⟩ := hw.pair (h.consuming ▸ hc)
    refine ⟨c, d, hpair, ?_, fun ht => ?_⟩
    · rcases h.loops with hl | ⟨-, hl⟩
      · rw [hl]
        exact hsub
      · exact hl.trans hsub
    · rw [h.taken, htaken] at ht
      cases ht
  stopped ht := hstopped.trans (hw.stopped (h.taken ▸ ht))
  returned hr := by
    obtain ⟨ht, hl⟩ := hw.returned (hreturned ▸ hr)
    exact ⟨h.taken.trans ht, h.loops_nil hl⟩

theorem muShared_step (ha : Allowed cfg m o) (hx : w.Admits o x) (hk : MuKnows w m.mu)
    (hs : StopKnows w m.stop) (hmu : HoldsMu m → w.mu = true) (hw : MuShared w) :
    MuShared (w.effect o x) := by
  obtain ⟨p, _, _, q⟩ := m
  dsimp only at hk hs
  cases o with
  | muLock => exact { hw with free := nofun }
  | muUnlock =>
    refine { hw with free := fun _ hc => ?_ }
    rcases (ha : p = _ ∨ p = _ ∨ p = _ ∨ p = _) with rfl | rfl | rfl | rfl
    · exact hk hc
    · exact hk.2
    · exact ⟨hk.2.1, hk.2.2.1⟩
    · exact ⟨hk.loops, hk.consumers⟩
  | setHandles => exact { hw with conn := fun _ => rfl }
  | consume k =>
    cases k with
    | cancel =>
      obtain rfl : p = _ := ha
      exact hw.of_section hk (hmu nofun)
    | main =>
      obtain ⟨c, rfl⟩ : ∃ c, p = _ := ha
      exact hw.of_section hk.1 (hmu nofun)
  | stopLoop c =>
    obtain rfl | ⟨d, rfl⟩ | rfl : p = _ ∨ (∃ d, p = _) ∨ p = _ := ha <;>
      exact hw.of_section hk.1 (hmu nofun)
  | appendConsumers cs =>
    obtain ⟨c, d, rfl, rfl⟩ : ∃ c d, p = _ ∧ _ := ha
    exact hw.of_section hk.1 (hmu nofun)
  | setConsuming =>
    obtain ⟨c, d, rfl⟩ : ∃ c d, p = _ := ha
    obtain ⟨hk, hpair⟩ := hk
    refine ⟨nofun, fun _ => hk.conn, fun _ => ⟨c, d, hpair, ?_, fun _ => ⟨hk.loops, hk.consumers⟩⟩,
      hw.stopped, hw.returned⟩
    exact hk.loops ▸ List.Sublist.refl _
  | takeConsumers =>
    obtain ⟨rfl, rfl⟩ : p = _ ∧ q = _ := ha
    refine ⟨fun h => absurd ((hmu nofun).symm.trans h) nofun, hw.conn, fun hc => ?_, fun _ => hs,
      fun hr => ⟨rfl, (hw.returned hr).2⟩⟩
    obtain ⟨c, d, hpair, hsub, -⟩ := hw.pair hc
    exact ⟨c, d, hpair, hsub, nofun⟩
  | closed c =>
    have hread : ∃ b, q = .read b := ha
    exact hw.of_frame (closed_muFrame hread hs) rfl
      (taken_of_read hread hs) rfl rfl rfl
  | closeConn =>
    have hread : ∃ b, q = .read b := ha
    exact hw.of_frame (closeConn_muFrame hread hs) rfl
      (taken_of_read hread hs) rfl rfl rfl
  | storeStopped => exact { hw with stopped := fun _ => rfl }
  | stopReturned =>
    refine { hw with returned := fun _ => ?_ }
    rcases (ha : q = _ ∨ q = _) with rfl | rfl
    · exact ⟨hs.1, hs.2 rfl⟩
    · exact hs
  | _ => exact ⟨hw.free, hw.conn, hw.pair, hw.stopped, hw.returned⟩

structure StopFrame (w w' : ClientState) : Prop where
  stopped : w.stopped = true → w'.stopped = true
  taken : w.taken = true → w'.taken = true
  loops : w.taken = true → w'.loops.Sublist w.loops

theorem StopFrame.knows (h : StopFrame w w') (hq : StopKnows w q) :
    StopKnows w' q := by
  have nil : w.taken = true → w.loops = [] → w'.loops = [] := by
    intro ht hl
    have hsub := h.loops ht
    rw [hl] at hsub
    exact List.sublist_nil.mp hsub
  cases q with
  | none | won => trivial
  | stored => exact h.stopped hq
  | taken => exact h.taken hq
  | read conn => exact ⟨h.taken hq.1, fun hc => nil hq.1 (hq.2 hc)⟩
  | closed => exact ⟨h.taken hq.1, nil hq.1 hq.2⟩

theorem effect_stopFrame (ha : Allowed cfg m o) (hk : MuKnows w m.mu) :
    StopFrame w (w.effect o x) := by
  obtain ⟨p, _, _, q⟩ := m
  dsimp only at hk
  cases o with
  | consume k =>
    have untaken : w.taken = false := by
      cases k with
      | cancel =>
        obtain rfl : p = _ := ha
        exact hk.taken
      | main =>
        obtain ⟨c, rfl⟩ : ∃ c, p = _ := ha
        exact hk.1.taken
    exact ⟨id, id, fun ht => absurd (ht.symm.trans untaken) nofun⟩
  | stopLoop c => exact ⟨id, id, fun _ => List.erase_sublist⟩
  | storeStopped => exact ⟨fun _ => rfl, id, fun _ => .refl _⟩
  | takeConsumers => exact ⟨id, fun _ => rfl, fun _ => .refl _⟩
  | closed c =>
    cases x with
    | false => exact ⟨id, id, fun _ => .refl _⟩
    | true => exact ⟨id, id, fun _ => List.erase_sublist⟩
  | closeConn => exact ⟨id, id, fun _ => List.nil_sublist _⟩
  | _ => exact ⟨id, id, fun _ => .refl _⟩

theorem stopKnows_step (ha : Allowed cfg m o) (hx : w.Admits o x) (hk : MuKnows w m.mu)
    (hs : StopKnows w m.stop) (hw : MuShared w) :
    StopKnows (w.effect o x) (stopNext m.stop ⟨o, x⟩) := by
  have frame : StopFrame w (w.effect o x) := effect_stopFrame ha hk
  obtain ⟨p, _, _, q⟩ := m
  dsimp only at hk hs ⊢
  cases o with
  | stopOnce =>
    obtain rfl : q = _ := ha
    cases x <;> trivial
  | storeStopped => exact rfl
  | takeConsumers => exact rfl
  | conn =>
    obtain ⟨rfl, rfl⟩ : p = _ ∧ q = _ := ha
    refine ⟨hs, fun hconn => (hk ?_).1⟩
    by_contra hc
    have hset := hw.conn (Or.inl ((Bool.not_eq_false _).mp hc))
    rw [← hx, hconn] at hset
    cases hset
  | closeConn =>
    have htaken : w.taken = true := taken_of_read (q := q) ha hs
    exact ⟨htaken, rfl⟩
  | _ => exact frame.knows hs

structure SetupFrame (w w' : ClientState) : Prop where
  setupDone : w'.setupDone = w.setupDone
  consumeRequested : w'.consumeRequested = w.consumeRequested
  fired : w'.fired = w.fired
  mainCons : w.mainCons = true → w'.mainCons = true
  cancelCons : w.cancelCons = true → w'.cancelCons = true
  consuming : w.consuming = true → w'.consuming = true
  stopped : w.stopped = true → w'.stopped = true

theorem SetupFrame.settled (h : SetupFrame w w') (hs : Settled cfg w) : Settled cfg w' := by
  rcases hs with hc | hst | ⟨hd, hr⟩
  · exact Or.inl (h.consuming hc)
  · exact Or.inr (Or.inl (h.stopped hst))
  · exact Or.inr (Or.inr ⟨hd, h.consumeRequested.trans hr⟩)

theorem SetupFrame.prepared (h : SetupFrame w w') (hp : Prepared w) : Prepared w' :=
  ⟨h.setupDone.trans hp.setupDone, h.mainCons hp.mainCons, h.cancelCons hp.cancelCons⟩

theorem SetupFrame.knows (h : SetupFrame w w') {p : SetupPhase} (hp : SetupKnows cfg w p) :
    SetupKnows cfg w' p := by
  cases p with
  | outside | held => trivial
  | fresh => exact h.setupDone.trans hp
  | created | requested => exact h.prepared hp
  | asked => exact ⟨h.prepared hp.1, h.consumeRequested.trans hp.2.1, h.fired.trans hp.2.2⟩
  | fired => exact ⟨h.prepared hp.1, h.consumeRequested.trans hp.2⟩
  | settled => exact ⟨h.prepared hp.1, h.settled hp.2⟩

def TouchesSetup : Op → Prop
  | .setSetupDone | .storeConsumeRequested | .onSetupReady => True
  | _ => False

theorem effect_setupFrame (h : ¬ TouchesSetup o) : SetupFrame w (w.effect o x) := by
  cases o with
  | setSetupDone | storeConsumeRequested | onSetupReady => exact absurd trivial h
  | setMainCons => exact ⟨rfl, rfl, rfl, fun _ => rfl, id, id, id⟩
  | setHandles => exact ⟨rfl, rfl, rfl, fun _ => rfl, fun _ => rfl, id, id⟩
  | setConsuming => exact ⟨rfl, rfl, rfl, id, id, fun _ => rfl, id⟩
  | storeStopped => exact ⟨rfl, rfl, rfl, id, id, id, fun _ => rfl⟩
  | _ => exact ⟨rfl, rfl, rfl, id, id, id, id⟩

theorem SetupKnows.settle {p : SetupPhase} (hp : SetupKnows cfg w p)
    (hs : Prepared w → Settled cfg w) : SetupKnows cfg w p.settle := by
  cases p with
  | created | requested => exact ⟨hp, hs hp⟩
  | asked => exact ⟨hp.1, hs hp.1⟩
  | _ => exact hp

theorem setupKnows_step (ha : Allowed cfg m o) (hx : w.Admits o x)
    (hk : SetupKnows cfg w m.setup)
    (hfired : m.setup = .created → w.consumeRequested = false → w.fired = 0) :
    SetupKnows cfg (w.effect o x) (setupNext m.setup ⟨o, x⟩) := by
  obtain ⟨_, p, _, _⟩ := m
  dsimp only at hk hfired ⊢
  cases o with
  | setupMuLock | setupMuUnlock | setSetupDone => trivial
  | setupDone =>
    obtain rfl : p = _ := ha
    cases x with
    | true => trivial
    | false => exact hx.symm
  | setHandles =>
    obtain ⟨-, rfl⟩ : _ ∧ p = _ := ha
    exact ⟨hk, rfl, rfl⟩
  | consumeRequested =>
    cases x with
    | true => exact hk
    | false =>
      obtain ⟨rfl | rfl | rfl | rfl, hdefer⟩ : (p = _ ∨ p = _ ∨ p = _ ∨ p = _) ∧ _ := ha
      · exact ⟨hk, hx.symm, hfired rfl hx.symm⟩
      · exact ⟨hk.1, Or.inr (Or.inr ⟨hdefer, hx.symm⟩)⟩
      · exact ⟨hk, Or.inr (Or.inr ⟨hdefer, hx.symm⟩)⟩
      · exact ⟨hk.1, Or.inr (Or.inr ⟨hdefer, hx.symm⟩)⟩
  | onSetupReady =>
    obtain rfl : p = _ := ha
    exact ⟨⟨hk.1.setupDone, hk.1.mainCons, hk.1.cancelCons⟩, hk.2.1⟩
  | storeConsumeRequested =>
    obtain rfl : p = _ := ha
    exact ⟨hk.1.setupDone, hk.1.mainCons, hk.1.cancelCons⟩
  | consuming =>
    cases x with
    | false => exact hk
    | true => exact hk.settle fun _ => Or.inl hx.symm
  | stopped =>
    cases x with
    | false => exact hk
    | true => exact hk.settle fun _ => Or.inr (Or.inl hx.symm)
  | consumersCreated =>
    cases x with
    | true => exact hk
    | false =>
      refine hk.settle fun hp => ?_
      have hx : false = (w.mainCons && w.cancelCons) := hx
      rw [hp.mainCons, hp.cancelCons] at hx
      cases hx
  | setConsuming =>
    have frame : SetupFrame w (w.effect .setConsuming ()) :=
      effect_setupFrame (o := .setConsuming) id
    exact (frame.knows hk).settle fun _ => Or.inl rfl
  | _ =>
    refine SetupFrame.knows ?_ hk
    exact effect_setupFrame id

def TouchesRetry : Op → Prop
  | .setRetrying _ | .goRetry | .retryEntered | .again => True
  | _ => False

theorem effect_retry (h : ¬ TouchesRetry o) : (w.effect o x).retrying = w.retrying ∧
    (w.effect o x).starting = w.starting ∧ (w.effect o x).retryLoops = w.retryLoops := by
  cases o with
  | setRetrying b | goRetry | retryEntered | again => exact absurd trivial h
  | _ => exact ⟨rfl, rfl, rfl⟩

theorem RetryKnows.frame {m' : Local} (hk : RetryKnows w m)
    (hsetup : m.setup ≠ .outside → m.retry = .vacant ∨ m.retry = .busy → m'.setup ≠ .outside)
    (hretry : m'.retry = m.retry) (hretrying : w'.retrying = w.retrying)
    (hloops : w'.retryLoops = w.retryLoops) : RetryKnows w' m' := by
  unfold RetryKnows at hk ⊢
  rw [hretry, hretrying, hloops]
  cases hr : m.retry with
  | none => trivial
  | vacant =>
    rw [hr] at hk
    exact ⟨hsetup hk.1 (Or.inl hr), hk.2⟩
  | busy =>
    rw [hr] at hk
    exact ⟨hsetup hk.1 (Or.inr hr), hk.2⟩
  | pending | running =>
    rw [hr] at hk
    exact hk

theorem retryNext_of_not_touches (h : ¬ TouchesRetry o) (h' : o ≠ .retrying) (r : RetryPhase) :
    retryNext r ⟨o, x⟩ = r := by
  cases o with
  | setRetrying b | goRetry | retryEntered | again => exact absurd trivial h
  | retrying => contradiction
  | _ => rfl

theorem setup_kept (ha : Allowed cfg m o) (hm : m.setup ≠ .outside)
    (hr : m.retry = .vacant ∨ m.retry = .busy) :
    ((lifecycle cfg).next m ⟨o, x⟩).setup ≠ .outside := by
  by_cases hlock : o = .setupMuLock
  · subst hlock
    exact nofun
  · by_cases hunlock : o = .setupMuUnlock
    · subst hunlock
      rcases hr with hr | hr
      · exact absurd hr ha.2.1
      · exact absurd hr ha.2.2
    · exact (holdsSetup_next ha hlock hunlock).mpr hm

theorem retryKnows_step (ha : Allowed cfg m o) (hx : w.Admits o x) (hk : RetryKnows w m)
    (hr : RetryShared w) : RetryKnows (w.effect o x) ((lifecycle cfg).next m ⟨o, x⟩) := by
  by_cases htouch : TouchesRetry o
  · cases o with
    | setRetrying b =>
      cases b with
      | false => trivial
      | true =>
        obtain ⟨_, p, r, _⟩ := m
        rcases (ha : r = _ ∨ r = _) with rfl | rfl
        · exact hr.idle hk.2
        · trivial
    | goRetry | again => trivial
    | retryEntered => exact (hr.started hx).2
    | _ => exact htouch.elim
  · obtain ⟨hretrying, -, hloops⟩ := effect_retry (w := w) (x := x) htouch
    by_cases hread : o = .retrying
    · subst hread
      cases x with
      | false => exact ⟨ha.1, hx.symm⟩
      | true => exact ⟨ha.1, hx.symm⟩
    · exact hk.frame (fun hm h => setup_kept ha hm h) (retryNext_of_not_touches htouch hread _)
        hretrying hloops

theorem retryShared_step (ha : Allowed cfg m o) (hx : w.Admits o x) (hk : RetryKnows w m)
    (hheld : HoldsRetry m → w.retrying = true ∧ w.starting = 0) (hr : RetryShared w) :
    RetryShared (w.effect o x) := by
  obtain ⟨_, p, r, _⟩ := m
  by_cases htouch : TouchesRetry o
  · cases o with
    | setRetrying b =>
      cases b with
      | true => exact ⟨hr.starting, fun h => ⟨rfl, (hr.started h).2⟩, nofun⟩
      | false =>
        obtain ⟨-, rfl⟩ : _ ∧ r = _ := ha
        obtain ⟨-, hstarting⟩ := hheld (Or.inr rfl)
        have hloops : w.retryLoops = 1 := hk
        refine ⟨hr.starting, fun h => ?_, fun _ => ?_⟩
        · have h : 0 < w.starting := h
          omega
        · change w.retryLoops - 1 = 0
          omega
    | goRetry =>
      obtain rfl : r = _ := ha
      obtain ⟨hretrying, hstarting⟩ := hheld (Or.inl rfl)
      have hloops : w.retryLoops = 0 := hk
      refine ⟨?_, fun _ => ⟨hretrying, ?_⟩, fun h => absurd (hretrying.symm.trans h) nofun⟩
      · change w.starting + 1 ≤ 1
        omega
      · change w.retryLoops + 1 = 1
        omega
    | retryEntered =>
      refine ⟨?_, fun h => ?_, hr.idle⟩
      · change w.starting - 1 ≤ 1
        have := hr.starting
        omega
      · exact hr.started (Nat.lt_of_lt_of_le h (Nat.sub_le _ _))
    | again =>
      obtain rfl : r = _ := ha
      obtain ⟨hretrying, hstarting⟩ := hheld (Or.inr rfl)
      refine ⟨?_, fun _ => ⟨hretrying, hk⟩, hr.idle⟩
      change w.starting + 1 ≤ 1
      omega
    | _ => exact htouch.elim
  · obtain ⟨hretrying, hstarting, hloops⟩ := effect_retry (w := w) (x := x) htouch
    refine ⟨?_, ?_, ?_⟩
    · rw [hstarting]
      exact hr.starting
    · rw [hstarting, hretrying, hloops]
      exact hr.started
    · rw [hretrying, hloops]
      exact hr.idle

end Step

section Run

variable {cfg : ClientConfig} {w : ClientState} {ms : ℕ → Local} {i : ℕ} {o : Op} {x : o.Ans}

theorem muOwned_step (h : Owned HoldsMu (w.mu = true) ms) (ha : Allowed cfg (ms i) o)
    (hx : w.Admits o x) : Owned HoldsMu ((w.effect o x).mu = true)
      (Function.update ms i ((lifecycle cfg).next (ms i) ⟨o, x⟩)) := by
  by_cases hlock : o = .muLock
  · subst hlock
    exact h.acquire (fun hmu => nomatch hmu.symm.trans hx) nofun rfl
  · by_cases hunlock : o = .muUnlock
    · subst hunlock
      refine h.release ?_ (fun hm => hm rfl) nofun
      intro hm
      rcases ha with ha | ha | ha | ha <;> exact nomatch hm.symm.trans ha
    · exact h.keep (holdsMu_next ha hlock hunlock) (by rw [effect_mu hlock hunlock])

theorem setupOwned_step (h : Owned HoldsSetup (w.setupMu = true) ms) (ha : Allowed cfg (ms i) o)
    (hx : w.Admits o x) : Owned HoldsSetup ((w.effect o x).setupMu = true)
      (Function.update ms i ((lifecycle cfg).next (ms i) ⟨o, x⟩)) := by
  by_cases hlock : o = .setupMuLock
  · subst hlock
    exact h.acquire (fun hmu => nomatch hmu.symm.trans hx) nofun rfl
  · by_cases hunlock : o = .setupMuUnlock
    · subst hunlock
      exact h.release ha.1.1 (fun hm => hm rfl) nofun
    · exact h.keep (holdsSetup_next ha hlock hunlock) (by rw [effect_setupMu hlock hunlock])

theorem retryOwned_step (h : Owned HoldsRetry (w.retrying = true ∧ w.starting = 0) ms)
    (ha : Allowed cfg (ms i) o) (hx : w.Admits o x) (hk : RetryKnows w (ms i))
    (hr : RetryShared w) :
    Owned HoldsRetry ((w.effect o x).retrying = true ∧ (w.effect o x).starting = 0)
      (Function.update ms i ((lifecycle cfg).next (ms i) ⟨o, x⟩)) := by
  by_cases htouch : TouchesRetry o
  · cases o with
    | setRetrying b =>
      cases b with
      | true =>
        unfold RetryKnows at hk
        rcases ha with hvacant | hbusy
        · rw [hvacant] at hk
          have hstarting : w.starting = 0 := by
            by_contra hne
            have := (hr.started (Nat.pos_of_ne_zero hne)).1
            rw [hk.2] at this
            cases this
          refine h.acquire (fun ht => nomatch hk.2.symm.trans ht.1) (Or.inl ?_) ⟨rfl, hstarting⟩
          exact if_pos hvacant
        · rw [hbusy] at hk
          refine h.keep ?_ (and_congr_left' (iff_of_true rfl hk.2))
          have hnext : ((lifecycle cfg).next (ms i) ⟨.setRetrying true, x⟩).retry = .none :=
            if_neg (by rw [hbusy]; exact nofun)
          simp [HoldsRetry, hnext, hbusy]
      | false =>
        exact h.release (Or.inr ha.2) (fun hm => hm.elim nofun nofun) fun ht => nomatch ht.1
    | goRetry =>
      exact h.release (Or.inl ha) (fun hm => hm.elim nofun nofun) fun ht => nomatch ht.2
    | retryEntered =>
      have hpos : 0 < w.starting := hx
      refine h.acquire (fun ht => ?_) (Or.inr rfl) ⟨(hr.started hx).1, ?_⟩
      · omega
      · change w.starting - 1 = 0
        have := hr.starting
        omega
    | again =>
      exact h.release (Or.inr ha) (fun hm => hm.elim nofun nofun) fun ht => nomatch ht.2
    | _ => exact htouch.elim
  · obtain ⟨hretrying, hstarting, -⟩ := effect_retry (w := w) (x := x) htouch
    refine h.keep ?_ (by rw [hretrying, hstarting])
    by_cases hread : o = .retrying
    · subst hread
      cases x <;> simp [HoldsRetry, lifecycle, retryNext, ha.2]
    · unfold HoldsRetry
      rw [show ((lifecycle cfg).next (ms i) ⟨o, x⟩).retry = (ms i).retry from
        retryNext_of_not_touches htouch hread _]

theorem Invariant.setup_others (h : Invariant cfg w ms) (ha : Allowed cfg (ms i) o) {j : ℕ}
    (hne : j ≠ i) : SetupKnows cfg (w.effect o x) (ms j).setup := by
  by_cases htouch : TouchesSetup o
  · have hi : HoldsSetup (ms i) := by
      intro hm
      cases o with
      | setSetupDone | storeConsumeRequested | onSetupReady => exact nomatch hm.symm.trans ha
      | _ => exact htouch.elim
    have hj : (ms j).setup = .outside := not_not.mp (h.setupOwned.not_holds hi hne)
    rw [hj]
    trivial
  · exact (effect_setupFrame htouch).knows (h.setup j)

theorem Invariant.mu_others (h : Invariant cfg w ms) (ha : Allowed cfg (ms i) o) {j : ℕ}
    (hne : j ≠ i) : MuKnows (w.effect o x) (ms j).mu := by
  by_cases hi : (ms i).mu = .outside
  · exact (effect_muFrame ha hi (h.stop i)).knows (h.mu j)
  · have hj : (ms j).mu = .outside := not_not.mp (h.muOwned.not_holds hi hne)
    rw [hj]
    trivial

theorem Invariant.retry_others (h : Invariant cfg w ms) (ha : Allowed cfg (ms i) o)
    (hx : w.Admits o x) {j : ℕ} (hne : j ≠ i) : RetryKnows (w.effect o x) (ms j) := by
  have hj := h.retry j
  -- the token is not with `j` when `i` has it or nobody has it
  have without : ¬ HoldsRetry (ms j) → ((w.effect o x).retrying = w.retrying ∨
      ¬ HoldsSetup (ms j)) → RetryKnows (w.effect o x) (ms j) := by
    intro hfree hretrying
    unfold RetryKnows at hj ⊢
    cases hr : (ms j).retry with
    | none => trivial
    | vacant | busy =>
      rw [hr] at hj
      rcases hretrying with hretrying | hsetup
      · exact ⟨hj.1, hretrying.trans hj.2⟩
      · exact absurd hj.1 hsetup
    | pending => exact absurd (Or.inl hr) hfree
    | running => exact absurd (Or.inr hr) hfree
  by_cases htouch : TouchesRetry o
  · cases o with
    | setRetrying b =>
      have hsetup : HoldsSetup (ms i) := by
        cases b with
        | false => exact ha.1
        | true =>
          have hi := h.retry i
          unfold RetryKnows at hi
          rcases ha with ha | ha <;> rw [ha] at hi <;> exact hi.1
      have hout := h.setupOwned.not_holds hsetup hne
      cases b with
      | false => exact without (h.retryOwned.not_holds (Or.inr ha.2) hne) (Or.inr hout)
      | true =>
        by_cases hfree : HoldsRetry (ms j)
        · have htaken := (h.retryOwned.taken_iff.mpr ⟨j, hfree⟩).1
          exact hj.frame (fun h _ => h) rfl htaken.symm rfl
        · exact without hfree (Or.inr hout)
    | goRetry => exact without (h.retryOwned.not_holds (Or.inl ha) hne) (Or.inl rfl)
    | again => exact without (h.retryOwned.not_holds (Or.inr ha) hne) (Or.inl rfl)
    | retryEntered =>
      refine without (fun hfree => ?_) (Or.inl rfl)
      have hstarting := (h.retryOwned.taken_iff.mpr ⟨j, hfree⟩).2
      have hpos : 0 < w.starting := hx
      omega
    | _ => exact htouch.elim
  · obtain ⟨hretrying, -, hloops⟩ := effect_retry (w := w) (x := x) htouch
    exact hj.frame (fun h _ => h) rfl hretrying hloops

theorem Invariant.not_fired (h : Invariant cfg w ms) (hi : (ms i).setup = .created)
    (hrequested : w.consumeRequested = false) : w.fired = 0 := by
  by_contra hne
  rcases h.firedBy (Nat.pos_of_ne_zero hne) with hr | ⟨j, hj⟩
  · exact nomatch hr.symm.trans hrequested
  · have hij := h.setupOwned.unique i j (by rw [HoldsSetup, hi]; exact nofun)
      (by rw [HoldsSetup, hj]; exact nofun)
    subst hij
    exact nomatch hi.symm.trans hj

theorem Invariant.done_step (h : Invariant cfg w ms) (ha : Allowed cfg (ms i) o) :
    (w.effect o x).setupDone = true → Settled cfg (w.effect o x) := by
  intro hdone
  by_cases htouch : TouchesSetup o
  · have hi := h.setup i
    cases o with
    | setSetupDone =>
      rw [show (ms i).setup = .settled from ha] at hi
      exact hi.2
    | storeConsumeRequested =>
      rw [show (ms i).setup = .fired from ha] at hi
      exact absurd (hi.1.setupDone.symm.trans hdone) nofun
    | onSetupReady => exact h.done hdone
    | _ => exact htouch.elim
  · have frame := effect_setupFrame (w := w) (x := x) htouch
    exact frame.settled (h.done (frame.setupDone.symm.trans hdone))

theorem Invariant.fired_step (h : Invariant cfg w ms) (ha : Allowed cfg (ms i) o) :
    (w.effect o x).fired ≤ 1 := by
  by_cases hfire : o = .onSetupReady
  · subst hfire
    have hi := h.setup i
    rw [show (ms i).setup = .asked from ha] at hi
    exact Nat.le_of_eq (congrArg (· + 1) hi.2.2)
  · have hsame : (w.effect o x).fired = w.fired := by
      cases o <;> first | rfl | contradiction
    rw [hsame]
    exact h.fired

theorem setupNext_fired (ha : Allowed cfg (ms i) o) (hi : (ms i).setup = .fired)
    (ho : o ≠ .storeConsumeRequested) : setupNext .fired ⟨o, x⟩ = .fired := by
  cases o with
  | storeConsumeRequested => contradiction
  | setupMuLock | setupDone | setSetupDone | onSetupReady => exact nomatch hi.symm.trans ha
  | setupMuUnlock => exact absurd hi ha.1.2
  | setHandles => exact nomatch hi.symm.trans ha.2
  | consumeRequested =>
    rcases ha.1 with h | h | h | h <;> exact nomatch hi.symm.trans h
  | consuming | stopped | consumersCreated => cases x <;> rfl
  | _ => rfl

theorem Invariant.firedBy_step (h : Invariant cfg w ms) (ha : Allowed cfg (ms i) o) :
    0 < (w.effect o x).fired → (w.effect o x).consumeRequested = true ∨
      ∃ j, (Function.update ms i ((lifecycle cfg).next (ms i) ⟨o, x⟩) j).setup = .fired := by
  intro hfired
  by_cases hrequest : o = .storeConsumeRequested
  · subst hrequest
    exact Or.inl rfl
  · by_cases hfire : o = .onSetupReady
    · subst hfire
      exact Or.inr ⟨i, by rw [Function.update_self]; rfl⟩
    · have hsame : (w.effect o x).fired = w.fired ∧
          (w.effect o x).consumeRequested = w.consumeRequested := by
        cases o <;> first | exact ⟨rfl, rfl⟩ | contradiction
      rw [hsame.1] at hfired
      rw [hsame.2]
      refine (h.firedBy hfired).imp_right ?_
      rintro ⟨j, hj⟩
      refine ⟨j, ?_⟩
      by_cases hji : j = i
      · subst hji
        rw [Function.update_self]
        change setupNext (ms j).setup _ = _
        rw [hj]
        exact setupNext_fired ha hj hrequest
      · rw [Function.update_of_ne hji]
        exact hj

theorem invariant_step (h : Invariant cfg w ms) (ha : Allowed cfg (ms i) o)
    (hx : w.Admits o x) : Invariant cfg (w.effect o x)
      (Function.update ms i ((lifecycle cfg).next (ms i) ⟨o, x⟩)) where
  muOwned := muOwned_step h.muOwned ha hx
  setupOwned := setupOwned_step h.setupOwned ha hx
  retryOwned := retryOwned_step h.retryOwned ha hx (h.retry i) h.retryShared
  mu := (Function.forall_update_iff ms fun _ m => MuKnows (w.effect o x) m.mu).mpr
    ⟨muKnows_step ha hx (h.mu i) (h.stop i) h.muShared, fun _ hne => h.mu_others ha hne⟩
  setup := (Function.forall_update_iff ms fun _ m => SetupKnows cfg (w.effect o x) m.setup).mpr
    ⟨setupKnows_step ha hx (h.setup i) h.not_fired, fun _ hne => h.setup_others ha hne⟩
  retry := (Function.forall_update_iff ms fun _ m => RetryKnows (w.effect o x) m).mpr
    ⟨retryKnows_step ha hx (h.retry i) h.retryShared, fun _ hne => h.retry_others ha hx hne⟩
  stop := (Function.forall_update_iff ms fun _ m => StopKnows (w.effect o x) m.stop).mpr
    ⟨stopKnows_step ha hx (h.mu i) (h.stop i) h.muShared,
      fun j _ => (effect_stopFrame ha (h.mu i)).knows (h.stop j)⟩
  muShared := muShared_step ha hx (h.mu i) (h.stop i)
    (fun hi => h.muOwned.taken_iff.mpr ⟨i, hi⟩) h.muShared
  retryShared := retryShared_step ha hx (h.retry i)
    (fun hi => h.retryOwned.taken_iff.mpr ⟨i, hi⟩) h.retryShared
  done := h.done_step ha
  fired := h.fired_step ha
  firedBy := h.firedBy_step ha

theorem run_invariant {calls : List Call} {l : Log messaging}
    {d : Config messaging ClientState Unit}
    (h : Run (clientSemantics cfg) ⟨calls.map (Call.routine cfg), newClient⟩ l d) :
    Invariant cfg d.world (locals (lifecycle cfg) fresh l) := by
  refine h.invariant (Q := fun _ _ => True) ?_ ?_ (invariant_newClient cfg) ?_
  · intro p hp
    obtain ⟨call, -, rfl⟩ := List.mem_map.mp hp
    cases call with
    | doSetup => exact doSetup_follows
    | stop => exact stop_follows
  · intro e p hp
    obtain ⟨o, x⟩ := e
    cases o with
    | goRetry | again =>
      obtain rfl := List.mem_singleton.mp hp
      exact retrySetupInBackground_follows
    | _ => cases hp
  · rintro w ms i o x _ hinv ha ⟨hx, rfl⟩
    exact invariant_step hinv ha hx

theorem Invariant.within_pair (h : Invariant cfg w ms) :
    ∃ c d, IsPair c d ∧ w.loops.Sublist [c, d] := by
  have none : w.loops = [] → ∃ c d, IsPair c d ∧ w.loops.Sublist [c, d] := by
    intro hl
    exact ⟨⟨.cancel, 0⟩, ⟨.main, 0⟩, ⟨rfl, rfl⟩, hl ▸ List.nil_sublist _⟩
  by_cases hc : w.consuming = true
  · obtain ⟨c, d, hpair, hsub, -⟩ := h.muShared.pair hc
    exact ⟨c, d, hpair, hsub⟩
  · rw [Bool.not_eq_true] at hc
    by_cases hmu : w.mu = true
    · obtain ⟨i, hi⟩ := h.muOwned.taken_iff.mp hmu
      have hk := h.mu i
      revert hi hk
      unfold HoldsMu
      -- the holder knows which loops it has started
      cases (ms i).mu with
      | outside => exact fun hi => absurd rfl hi
      | held => exact fun _ hk => none (hk hc).1
      | idle | «open» => exact fun _ hk => none hk.2.1
      | ready => exact fun _ hk => none hk.loops
      | cancel c =>
        intro _ hboth
        obtain ⟨hk, hkind⟩ := hboth
        refine ⟨c, ⟨.main, 0⟩, ⟨hkind, rfl⟩, ?_⟩
        rw [hk.loops]
        exact List.singleton_sublist.mpr List.mem_cons_self
      | both c d | unstopped c d | appended c d =>
        intro _ hboth
        obtain ⟨hk, hpair⟩ := hboth
        exact ⟨c, d, hpair, hk.loops ▸ List.Sublist.refl _⟩
      | main d =>
        intro _ hboth
        obtain ⟨hk, hkind⟩ := hboth
        refine ⟨⟨.cancel, 0⟩, d, ⟨rfl, hkind⟩, ?_⟩
        rw [hk.loops]
        exact List.singleton_sublist.mpr (by simp)
    · exact none (h.muShared.free ((Bool.not_eq_true _).mp hmu) hc).1

theorem Invariant.retryLoops_le (h : Invariant cfg w ms) : w.retryLoops ≤ 1 := by
  by_cases hretrying : w.retrying = true
  · by_cases hstarting : w.starting = 0
    · obtain ⟨i, hi⟩ := h.retryOwned.taken_iff.mp ⟨hretrying, hstarting⟩
      have hk := h.retry i
      unfold RetryKnows at hk
      rcases hi with hi | hi <;> rw [hi] at hk <;> omega
    · exact Nat.le_of_eq (h.retryShared.started (Nat.pos_of_ne_zero hstarting)).2
  · rw [h.retryShared.idle ((Bool.not_eq_true _).mp hretrying)]
    exact Nat.zero_le 1

theorem Invariant.loops_run (h : Invariant cfg w ms) (hdone : w.setupDone = true)
    (hstopped : w.stopped = false)
    (hrequested : cfg.deferConsume = false ∨ w.consumeRequested = true) (k : LoopKind) :
    ∃ c ∈ w.loops, c.kind = k := by
  have hconsuming : w.consuming = true := by
    rcases h.done hdone with hc | hs | ⟨hd, hr⟩
    · exact hc
    · exact nomatch hs.symm.trans hstopped
    · rcases hrequested with hd' | hr'
      · exact nomatch hd.symm.trans hd'
      · exact nomatch hr.symm.trans hr'
  have huntaken : w.taken = false := by
    by_contra ht
    exact nomatch (h.muShared.stopped ((Bool.not_eq_false _).mp ht)).symm.trans hstopped
  obtain ⟨c, d, ⟨hc, hd⟩, -, hall⟩ := h.muShared.pair hconsuming
  rw [(hall huntaken).1]
  cases k with
  | cancel => exact ⟨c, List.mem_cons_self, hc⟩
  | main => exact ⟨d, by simp, hd⟩

def callbacks (l : Log messaging) : ℕ := l.countP fun e => e.2.1 = .onSetupReady

theorem run_callbacks {c d : Config messaging ClientState Unit} {l : Log messaging}
    (h : Run (clientSemantics cfg) c l d) : d.world.fired = c.world.fired + callbacks l := by
  induction h with
  | nil => rfl
  | @snoc l d u e _ hs ih =>
    obtain ⟨i, o, x⟩ := e
    cases hs with
    | mk hi ha =>
      obtain ⟨-, rfl⟩ := ha
      rw [callbacks, List.countP_append, ← callbacks, ← Nat.add_assoc, ← ih]
      cases o <;> rfl

/-- At most one cancel loop, one main loop and one background retry are live at a time; the callback
fires at most once; a finished setup of a running client has both loops when they are wanted; and
once `Stop` has returned there are none. -/
theorem lifecycle_safe (cfg : ClientConfig) (calls : List Call) {l : Log messaging}
    {d : Config messaging ClientState Unit}
    (h : Run (clientSemantics cfg) ⟨calls.map (Call.routine cfg), newClient⟩ l d) :
    (∀ k, d.world.loops.countP (·.kind = k) ≤ 1) ∧ callbacks l ≤ 1 ∧ d.world.retryLoops ≤ 1 ∧
      (d.world.setupDone = true → d.world.stopped = false →
        cfg.deferConsume = false ∨ d.world.consumeRequested = true →
          ∀ k, ∃ c ∈ d.world.loops, c.kind = k) ∧
      (d.world.stopReturned = true → d.world.loops = []) := by
  have inv := run_invariant h
  refine ⟨fun k => ?_, ?_, inv.retryLoops_le, inv.loops_run, fun hr => (inv.muShared.returned hr).2⟩
  · obtain ⟨c, d, ⟨hc, hd⟩, hsub⟩ := inv.within_pair
    refine Nat.le_trans hsub.countP_le ?_
    cases k <;> simp [hc, hd]
  · have hcount := run_callbacks h
    have hfired := inv.fired
    change d.world.fired = 0 + callbacks l at hcount
    omega

end Run

def smoothAnswer (s : ClientState) : (o : Op) → o.Ans
  | .setupDone => s.setupDone
  | .retrying => s.retrying
  | .stopped => s.stopped
  | .retryWait => s.stopChClosed
  | .setupStep _ | .closed _ => true
  | .consumeRequested => s.consumeRequested
  | .consuming => s.consuming
  | .consumersCreated => s.mainCons && s.cancelCons
  | .consume k => some ⟨k, s.nextLoop⟩
  | .stopOnce => !s.stopOnce
  | .takeConsumers => s.consumers
  | .conn => s.conn
  | .setupMuLock | .setupMuUnlock | .muLock | .muUnlock | .setSetupDone | .setRetrying _
  | .storeStopped | .closeStopCh | .setMainCons | .drainCancelTopic | .setHandles
  | .storeConsumeRequested | .stopLoop _ | .appendConsumers _ | .setConsuming | .onSetupReady
  | .processOnRestart | .goRetry | .retryEntered | .again | .drain _ | .closeConn
  | .stopReturned => ()

def smooth : Handler messaging ClientState := fun o s =>
  (smoothAnswer s o, s.effect o (smoothAnswer s o))

def Enabled : Op → ClientState → Prop
  | .setupMuLock, s => s.setupMu = false
  | .muLock, s => s.mu = false
  | .retryEntered, s => 0 < s.starting
  | .stopOnce, s => s.stopOnce = true → s.stopReturned = true
  | _, _ => True

instance (o : Op) (s : ClientState) : Decidable (Enabled o s) := by
  cases o <;> unfold Enabled <;> infer_instance

theorem smooth_admitted (cfg : ClientConfig) (o : Op) (s : ClientState) (h : Enabled o s) :
    (clientSemantics cfg).act o s (smooth o s).1 (smooth o s).2 := by
  refine ⟨?_, rfl⟩
  change s.Admits o (smoothAnswer s o)
  cases o with
  | setupMuLock | muLock | retryEntered => exact h
  | stopOnce =>
    change if (!s.stopOnce) = true then _ else _
    cases hs : s.stopOnce with
    | false => exact rfl
    | true => exact h hs
  | consume k =>
    intro c hc
    exact (Option.some.inj hc).symm
  | retryWait => exact id
  | setupDone | retrying | stopped | consumeRequested | consuming | consumersCreated
  | takeConsumers | conn => exact rfl
  | _ => trivial

def deferred : ClientConfig := ⟨true, true⟩

def startThenStop : Log messaging × Config messaging ClientState Unit :=
  play smooth (started deferred)
    ⟨[Call.doSetup, Call.stop].map (Call.routine deferred), newClient⟩
    (List.replicate 40 0 ++ List.replicate 20 1)

theorem lifecycle_safe_smooth :
    Run (clientSemantics deferred)
      ⟨[Call.doSetup, Call.stop].map (Call.routine deferred), newClient⟩
      startThenStop.1 startThenStop.2 ∧
    callbacks startThenStop.1 = 1 ∧ startThenStop.2.world.setupDone = true ∧
    startThenStop.2.world.stopReturned = true ∧ startThenStop.2.world.loops = [] := by
  have hrun : Run (clientSemantics deferred)
      ⟨[Call.doSetup, Call.stop].map (Call.routine deferred), newClient⟩
      startThenStop.1 startThenStop.2 :=
    run_play_of_meets (smooth_admitted deferred) (by decide +kernel)
  have hreturned : startThenStop.2.world.stopReturned = true := by decide +kernel
  exact ⟨hrun, by decide +kernel, by decide +kernel, hreturned,
    (lifecycle_safe deferred [.doSetup, .stop] hrun).2.2.2.2 hreturned⟩

end MessagingLifecycle
