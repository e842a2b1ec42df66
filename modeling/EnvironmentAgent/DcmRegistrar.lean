import EnvironmentAgent.LabelledRuns
import Mathlib.Data.Finset.Dedup
import Mathlib.Data.Finset.Erase
import Mathlib.Data.Finset.Insert

/-! # The DCM registrar

`dcm/registrar.go` with its wiring in `main.go`. The lister reads the store and then the health
states one by one, so its answer is the advertisable set only if that has not changed since the
query began. Changes are counted; each is notified later, through a channel that holds one
token. -/
namespace DcmRegistrar

open LabelledRuns

structure ResourceCapacity where
  totalCpu : Option String
  totalMemory : Option String
  totalNode : Option ℤ
  totalStorage : Option String
  deriving DecidableEq, Repr

structure RegistrarConfig where
  agentName : String
  environment : String
  cost : String
  topicName : String
  deriving DecidableEq, Repr

structure RegistrationPayload where
  name : String
  environment : String
  cost : String
  topicName : String
  serviceTypes : List String
  resourcesAvailable : Option ResourceCapacity
  deriving DecidableEq, Repr

/-- `none` is the lister's `nil`. -/
def buildPayload (config : RegistrarConfig) (types : Option (List String))
    (resources : Option ResourceCapacity) : RegistrationPayload where
  name := config.agentName
  environment := config.environment
  cost := config.cost
  topicName := config.topicName
  serviceTypes := types.getD []
  resourcesAvailable := resources

inductive Caller where
  | doRegistration
  | reRegister
  deriving DecidableEq, Repr

structure Build where
  payload : RegistrationPayload
  since : ℕ
  deriving DecidableEq, Repr

inductive Phase where
  | gate
  | gateQuery (since : ℕ)
  | gateWait
  | attempting (caller : Caller)
  | building (caller : Caller) (since : ℕ)
  | sending (caller : Caller) (build : Build)
  | backoff (caller : Caller)
  /-- The select of `run`. -/
  | idle
  | heartbeat
  /-- `doRegistration` has given up. -/
  | blocked
  | panicked
  | done
  deriving DecidableEq, Repr

structure Registrar where
  config : RegistrarConfig
  advertisable : Finset String
  changes : ℕ
  /-- The changes whose notification is still to come. -/
  pending : Finset ℕ
  storeErr : Bool
  cancelled : Bool
  notifyCh : Bool
  phase : Phase
  /-- Every registration request sent to DCM. -/
  requests : List RegistrationPayload
  /-- The last one that DCM accepted. -/
  registered : Option Build

def newRegistrar (config : RegistrarConfig) (advertisable : Finset String) : Registrar where
  config
  advertisable
  changes := 0
  pending := ∅
  storeErr := false
  cancelled := false
  notifyCh := false
  phase := .gate
  requests := []
  registered := none

def giveUp : Caller → Phase
  | .doRegistration => .blocked
  | .reRegister => .idle

def Answers (r : Registrar) (since : ℕ) : Option (List String) → Prop
  | none => r.storeErr = true
  | some types => r.storeErr = false ∧ (since = r.changes → types.toFinset = r.advertisable)

inductive Event where
  | changed (types : Finset String)
  | notified
  | storeFailed
  | storeRecovered
  | cancelled
  | panicked
  | listed (types : Option (List String))
  | sent (payload : RegistrationPayload)
  /-- DCM's answer is `ErrNonRetryable`. -/
  | rejected
  | accepted
  /-- Any other step of the goroutine. -/
  | moved

inductive Step : Registrar → Event → Registrar → Prop where
  | change {r : Registrar} (types : Finset String) (hne : types ≠ r.advertisable) :
      Step r (.changed types)
        { r with
          advertisable := types
          changes := r.changes + 1
          pending := insert (r.changes + 1) r.pending }
  | notify {r : Registrar} {k : ℕ} (hk : k ∈ r.pending) :
      Step r .notified { r with notifyCh := true, pending := r.pending.erase k }
  /-- A notification without a change, such as the one before `Start`. -/
  | kick {r : Registrar} : Step r .notified { r with notifyCh := true }
  | failStore {r : Registrar} : Step r .storeFailed { r with storeErr := true }
  | recoverStore {r : Registrar} : Step r .storeRecovered { r with storeErr := false }
  | cancel {r : Registrar} : Step r .cancelled { r with cancelled := true }
  | query {r : Registrar} (hp : r.phase = .gate) :
      Step r .moved { r with phase := .gateQuery r.changes }
  | list {r : Registrar} {since : ℕ} (types : Option (List String))
      (hp : r.phase = .gateQuery since) (ha : Answers r since types) :
      Step r (.listed types)
        { r with phase := if types.getD [] ≠ [] then .attempting .doRegistration else .gateWait }
  | wakeGate {r : Registrar} (hp : r.phase = .gateWait) (hn : r.notifyCh = true) :
      Step r .moved { r with notifyCh := false, phase := .gate }
  | tickGate {r : Registrar} (hp : r.phase = .gateWait) : Step r .moved { r with phase := .gate }
  | attempt {r : Registrar} {caller : Caller} (hp : r.phase = .attempting caller)
      (hc : r.cancelled = false) :
      Step r .moved { r with phase := .building caller r.changes }
  | send {r : Registrar} {caller : Caller} {since : ℕ} (types : Option (List String))
      (resources : Option ResourceCapacity) (hp : r.phase = .building caller since)
      (ha : Answers r since types) (hc : r.cancelled = false) :
      Step r (.sent (buildPayload r.config types resources))
        { r with
          phase := .sending caller ⟨buildPayload r.config types resources, since⟩
          requests := r.requests ++ [buildPayload r.config types resources] }
  | accept {r : Registrar} {caller : Caller} {build : Build}
      (hp : r.phase = .sending caller build) :
      Step r .accepted { r with phase := .idle, registered := some build }
  | fail {r : Registrar} {caller : Caller} {build : Build} (hp : r.phase = .sending caller build)
      (hc : r.cancelled = false) : Step r .moved { r with phase := .backoff caller }
  | reject {r : Registrar} {caller : Caller} {build : Build}
      (hp : r.phase = .sending caller build) :
      Step r .rejected { r with phase := giveUp caller }
  | wakeBackoff {r : Registrar} {caller : Caller} (hp : r.phase = .backoff caller)
      (hn : r.notifyCh = true) :
      Step r .moved { r with notifyCh := false, phase := .attempting caller }
  | endBackoff {r : Registrar} {caller : Caller} (hp : r.phase = .backoff caller) :
      Step r .moved { r with phase := .attempting caller }
  | wakeIdle {r : Registrar} (hp : r.phase = .idle) (hn : r.notifyCh = true) :
      Step r .moved { r with notifyCh := false, phase := .attempting .reRegister }
  | beginHeartbeat {r : Registrar} (hp : r.phase = .idle) :
      Step r .moved { r with phase := .heartbeat }
  | endHeartbeat {r : Registrar} (hp : r.phase = .heartbeat) :
      Step r .moved { r with phase := .idle }
  /-- `registerWithRetry` returns false when the context has ended. -/
  | abort {r : Registrar} {caller : Caller} (hc : r.cancelled = true)
      (hp : r.phase = .attempting caller ∨ (∃ since, r.phase = .building caller since) ∨
        (∃ build, r.phase = .sending caller build) ∨ r.phase = .backoff caller) :
      Step r .moved { r with phase := giveUp caller }
  | exit {r : Registrar} (hc : r.cancelled = true)
      (hp : r.phase = .gateWait ∨ r.phase = .idle ∨ r.phase = .blocked ∨ r.phase = .panicked) :
      Step r .moved { r with phase := .done }
  | panic {r : Registrar} (hp : r.phase ≠ .done) :
      Step r .panicked { r with phase := .panicked }
  /-- The supervisor enters `run` again. -/
  | restart {r : Registrar} (hp : r.phase = .panicked) : Step r .moved { r with phase := .gate }

variable {r v : Registrar} {e : Event} {l : List Event} {config : RegistrarConfig}
  {types : Finset String}

/-- Store reads succeed, the context lives on, nothing panics and no error is final. -/
def Faultless : Event → Prop
  | .storeFailed | .cancelled | .panicked | .rejected => False
  | _ => True

def Recent (r : Registrar) (b : Build) : Prop :=
  b.since ≤ r.changes ∧
    (b.since = r.changes → b.payload.serviceTypes.toFinset = r.advertisable)

def Sound (r : Registrar) : Phase → Prop
  | .building _ since => since ≤ r.changes
  | .sending _ build => Recent r build
  | .idle | .heartbeat => ∃ b, r.registered = some b ∧ Recent r b
  | .blocked | .panicked | .done => False
  | _ => True

def Covers (r : Registrar) (k : ℕ) : Phase → Prop
  | .building _ since => k ≤ since
  | .sending _ build => k ≤ build.since
  | .idle | .heartbeat => ∀ b, r.registered = some b → k ≤ b.since
  | _ => True

structure Invariant (r : Registrar) : Prop where
  storeErr : r.storeErr = false
  cancelled : r.cancelled = false
  sound : Sound r r.phase
  covered : ∀ k ≤ r.changes, k ∉ r.pending → r.notifyCh = true ∨ Covers r k r.phase

theorem invariant_newRegistrar : Invariant (newRegistrar config types) :=
  ⟨rfl, rfl, trivial, fun _ _ _ => Or.inr trivial⟩

variable {pending : Finset ℕ}

theorem Recent.change {b : Build} (h : Recent r b) :
    Recent { r with advertisable := types, changes := r.changes + 1, pending } b := by
  have hle := h.1
  exact ⟨by dsimp; omega, fun heq => by dsimp at heq; omega⟩

theorem Sound.change {p : Phase} (h : Sound r p) :
    Sound { r with advertisable := types, changes := r.changes + 1, pending } p := by
  cases p with
  | building => exact Nat.le_succ_of_le h
  | sending => exact Recent.change h
  | idle | heartbeat =>
    obtain ⟨b, hb, h⟩ := h
    exact ⟨b, hb, h.change⟩
  | blocked | panicked | done => exact h.elim
  | gate | gateQuery | gateWait | attempting | backoff => trivial

theorem invariant_step (h : Invariant r) (he : Faultless e) (hstep : Step r e v) :
    Invariant v := by
  obtain ⟨hstore, hctx, hsound, hcovered⟩ := h
  cases hstep with
  | change types =>
    refine ⟨hstore, hctx, hsound.change, ?_⟩
    intro k hk hpending
    dsimp only at hk hpending
    rw [Finset.mem_insert, not_or] at hpending
    exact hcovered k (by omega) hpending.2
  | notify | kick => exact ⟨hstore, hctx, hsound, fun _ _ _ => Or.inl rfl⟩
  | recoverStore => exact ⟨rfl, hctx, hsound, hcovered⟩
  | query | wakeGate | tickGate | fail | wakeBackoff | endBackoff | wakeIdle =>
    exact ⟨hstore, hctx, trivial, fun _ _ _ => Or.inr trivial⟩
  | list types =>
    refine ⟨hstore, hctx, ?_, fun _ _ _ => Or.inr ?_⟩ <;> dsimp only <;> split <;> trivial
  | attempt => exact ⟨hstore, hctx, Nat.le_refl _, fun k hk _ => Or.inr hk⟩
  | @send caller since answer resources hp ha =>
    rw [hp] at hsound hcovered
    refine ⟨hstore, hctx, ⟨hsound, ?_⟩, hcovered⟩
    cases answer with
    | none => exact absurd (hstore.symm.trans ha) (by simp)
    | some answer => exact ha.2
  | accept hp =>
    rw [hp] at hsound hcovered
    refine ⟨hstore, hctx, ⟨_, rfl, hsound⟩, ?_⟩
    intro k hk hpending
    apply (hcovered k hk hpending).imp_right
    intro hle b hb
    obtain rfl := Option.some.inj hb
    exact hle
  | beginHeartbeat hp =>
    rw [hp] at hsound hcovered
    exact ⟨hstore, hctx, hsound, hcovered⟩
  | endHeartbeat hp =>
    rw [hp] at hsound hcovered
    exact ⟨hstore, hctx, hsound, hcovered⟩
  | abort hc | exit hc => exact absurd (hctx.symm.trans hc) (by simp)
  | restart hp =>
    rw [hp] at hsound
    exact hsound.elim
  | failStore | cancel | reject | panic => exact he.elim

/-- Whenever the registrar is idle with an empty channel, the last registration that DCM accepted
was built after every change that has been notified; and when none is still to be notified, it
lists the advertisable set. -/
theorem registration_up_to_date
    (h : Run (Guarded Step fun _ e => Faultless e) (newRegistrar config types) l r)
    (hidle : r.phase = .idle) (hempty : r.notifyCh = false) :
    ∃ b, r.registered = some b ∧ (∀ k ≤ r.changes, k ∉ r.pending → k ≤ b.since) ∧
      (r.pending = ∅ → b.payload.serviceTypes.toFinset = r.advertisable) := by
  have hinv : Invariant r := h.preserves invariant_newRegistrar
    fun _ _ _ hi hstep => invariant_step hi hstep.1 hstep.2
  obtain ⟨-, -, hsound, hcovered⟩ := hinv
  rw [hidle] at hsound hcovered
  obtain ⟨b, hb, hrecent⟩ := hsound
  have hseen : ∀ k ≤ r.changes, k ∉ r.pending → k ≤ b.since := by
    intro k hk hpending
    rcases hcovered k hk hpending with hn | hcovers
    · rw [hempty] at hn
      cases hn
    · exact hcovers b hb
  refine ⟨b, hb, hseen, ?_⟩
  intro hpending
  have hlast := hseen r.changes (Nat.le_refl _) (by simp [hpending])
  exact hrecent.2 (Nat.le_antisymm hrecent.1 hlast)

def vmConfig : RegistrarConfig := ⟨"agent", "lab", "low", "dcm.agent.lab"⟩

def vmPayload (types : List String) : RegistrationPayload := buildPayload vmConfig (some types) none

def vmStart : Registrar := newRegistrar vmConfig {"vm"}

def vmPassed : Registrar := { vmStart with phase := .attempting .doRegistration }

def vmSent : Registrar :=
  { vmStart with
    phase := .sending .doRegistration ⟨vmPayload ["vm"], 0⟩
    requests := [vmPayload ["vm"]] }

def vmAccepted : Registrar :=
  { vmSent with phase := .idle, registered := some ⟨vmPayload ["vm"], 0⟩ }

def vmChanged : Registrar :=
  { vmAccepted with advertisable := {"vm", "db"}, changes := 1, pending := insert 1 ∅ }

def vmNotified : Registrar :=
  { vmChanged with notifyCh := true, pending := vmChanged.pending.erase 1 }

def vmRenewed : Registrar :=
  { vmNotified with
    notifyCh := false
    requests := [vmPayload ["vm"], vmPayload ["vm", "db"]]
    registered := some ⟨vmPayload ["vm", "db"], 1⟩ }

theorem vm_queries : Step vmStart .moved { vmStart with phase := .gateQuery 0 } := .query rfl

theorem vm_lists : Step { vmStart with phase := .gateQuery 0 } (.listed (some ["vm"])) vmPassed :=
  .list (some ["vm"]) rfl ⟨rfl, fun _ => by decide⟩

theorem vm_attempts : Step vmPassed .moved { vmPassed with phase := .building .doRegistration 0 } :=
  .attempt rfl rfl

theorem vm_sends : Step { vmPassed with phase := .building .doRegistration 0 }
    (.sent (vmPayload ["vm"])) vmSent :=
  .send (some ["vm"]) none rfl ⟨rfl, fun _ => by decide⟩ rfl

theorem registration_up_to_date_vm :
    ∃ b, vmRenewed.registered = some b ∧ (∀ k ≤ 1, k ∉ vmRenewed.pending → k ≤ b.since) ∧
      b.payload.serviceTypes.toFinset = {"vm", "db"} := by
  have hchanged : Step vmAccepted (.changed {"vm", "db"}) vmChanged :=
    .change {"vm", "db"} (by decide)
  have hnotified : Step vmChanged .notified vmNotified := .notify (k := 1) (by decide)
  have hwakes : Step vmNotified .moved _ := .wakeIdle rfl rfl
  have hsends : Step _ (.sent (vmPayload ["vm", "db"])) _ :=
    .send (r := { vmNotified with notifyCh := false, phase := .building .reRegister 1 })
      (some ["vm", "db"]) none rfl ⟨rfl, fun _ => by decide⟩ rfl
  have hrun : Run Step vmStart [.moved, .listed (some ["vm"]), .moved, .sent (vmPayload ["vm"]),
      .accepted, .changed {"vm", "db"}, .notified, .moved, .moved,
      .sent (vmPayload ["vm", "db"]), .accepted] vmRenewed :=
    .cons vm_queries (.cons vm_lists (.cons vm_attempts (.cons vm_sends (.cons (.accept rfl)
      (.cons hchanged (.cons hnotified (.cons hwakes (.cons (.attempt rfl rfl) (.cons hsends
        (.single (.accept rfl)))))))))))
  obtain ⟨b, hb, hseen, htypes⟩ :=
    registration_up_to_date (hrun.guarded (by simp [Faultless])) rfl rfl
  exact ⟨b, hb, hseen, htypes (by decide)⟩

/-- Between the gate's answer and the first request no store read fails, the set does not become
empty or change while the payload is built; and a type is left when a change overlaps the gate. -/
def Undisturbed (r : Registrar) (e : Event) : Prop :=
  r.requests = [] → r.cancelled = false →
    match e, r.phase with
    | .changed types, .attempting _ => types.Nonempty
    | .changed _, .building _ _ => False
    | .storeFailed, .attempting _ => False
    | .storeFailed, .building _ _ => False
    | .listed types, _ => types.getD [] ≠ [] → r.advertisable.Nonempty
    | _, _ => True

def Supplied (r : Registrar) : Phase → Prop
  | .attempting _ => r.advertisable.Nonempty ∧ r.storeErr = false
  | .building _ since => since = r.changes ∧ r.advertisable.Nonempty ∧ r.storeErr = false
  | .sending _ _ | .backoff _ | .idle | .heartbeat => False
  | _ => True

structure Secured (r : Registrar) : Prop where
  supplied : r.requests = [] → r.cancelled = false → Supplied r r.phase
  first : ∀ p, r.requests.head? = some p → p.serviceTypes ≠ []

theorem secured_newRegistrar : Secured (newRegistrar config types) :=
  ⟨fun _ _ => trivial, fun _ h => by cases h⟩

variable {answer : Option (List String)} {since : ℕ}

theorem answers_ne_nil (ha : Answers r since answer) (hsince : since = r.changes)
    (hne : r.advertisable.Nonempty) (hstore : r.storeErr = false) : answer.getD [] ≠ [] := by
  cases answer with
  | none => exact absurd (hstore.symm.trans ha) (by simp)
  | some answer =>
    intro hnil
    have heq := ha.2 hsince
    rw [Option.getD_some] at hnil
    rw [← heq, hnil] at hne
    simp at hne

theorem Secured.absurd_phase (h : Secured r) (hreq : r.requests = []) (hctx : r.cancelled = false)
    {p : Phase} (hp : r.phase = p) (hnot : ¬Supplied r p) : False :=
  hnot (hp ▸ h.supplied hreq hctx)

theorem Secured.change (h : Secured r) (hu : Undisturbed r (.changed types)) :
    Secured { r with advertisable := types, changes := r.changes + 1, pending } := by
  refine ⟨fun hreq hctx => ?_, h.first⟩
  have hsupplied := h.supplied hreq hctx
  have hkept := hu hreq hctx
  dsimp only
  cases hp : r.phase with
  | attempting caller =>
    rw [hp] at hsupplied hkept
    exact ⟨hkept, hsupplied.2⟩
  | building caller since =>
    rw [hp] at hkept
    exact hkept.elim
  | _ =>
    rw [hp] at hsupplied
    exact hsupplied

theorem Secured.failStore (h : Secured r) (hu : Undisturbed r .storeFailed) :
    Secured { r with storeErr := true } := by
  refine ⟨fun hreq hctx => ?_, h.first⟩
  have hsupplied := h.supplied hreq hctx
  have hkept := hu hreq hctx
  dsimp only
  cases hp : r.phase with
  | attempting | building =>
    rw [hp] at hkept
    exact hkept.elim
  | _ =>
    rw [hp] at hsupplied
    exact hsupplied

theorem Secured.recoverStore (h : Secured r) : Secured { r with storeErr := false } := by
  refine ⟨fun hreq hctx => ?_, h.first⟩
  have hsupplied := h.supplied hreq hctx
  dsimp only
  cases hp : r.phase with
  | attempting =>
    rw [hp] at hsupplied
    exact ⟨hsupplied.1, rfl⟩
  | building =>
    rw [hp] at hsupplied
    exact ⟨hsupplied.1, hsupplied.2.1, rfl⟩
  | _ =>
    rw [hp] at hsupplied
    exact hsupplied

theorem Secured.list (h : Secured r) (hp : r.phase = .gateQuery since) (ha : Answers r since answer)
    (hu : Undisturbed r (.listed answer)) :
    Secured { r with
      phase := if answer.getD [] ≠ [] then .attempting .doRegistration else .gateWait } := by
  refine ⟨fun hreq hctx => ?_, h.first⟩
  have hkept := hu hreq hctx
  rw [hp] at hkept
  dsimp only
  split
  · next hne =>
    cases answer with
    | none => exact absurd rfl hne
    | some answer => exact ⟨hkept hne, ha.1⟩
  · trivial

variable {caller : Caller}

theorem Secured.send (h : Secured r) {resources : Option ResourceCapacity}
    (hp : r.phase = .building caller since) (ha : Answers r since answer)
    (hctx : r.cancelled = false) :
    Secured { r with
      phase := .sending caller ⟨buildPayload r.config answer resources, since⟩
      requests := r.requests ++ [buildPayload r.config answer resources] } := by
  constructor
  · intro hreq
    exact absurd hreq (by simp)
  · intro p hhead
    cases hreq : r.requests with
    | nil =>
      have hsupplied := h.supplied hreq hctx
      rw [hp] at hsupplied
      dsimp only at hhead
      rw [hreq] at hhead
      obtain rfl := Option.some.inj hhead
      exact answers_ne_nil ha hsupplied.1 hsupplied.2.1 hsupplied.2.2
    | cons q qs =>
      dsimp only at hhead
      rw [hreq] at hhead
      exact h.first p (hreq ▸ hhead)

theorem secured_step (h : Secured r) (hu : Undisturbed r e) (hstep : Step r e v) :
    Secured v := by
  cases hstep with
  | change => exact h.change hu
  | notify | kick => exact ⟨h.supplied, h.first⟩
  | failStore => exact h.failStore hu
  | recoverStore => exact h.recoverStore
  | cancel => exact ⟨fun _ hctx => absurd hctx (by simp), h.first⟩
  | query | wakeGate | tickGate | panic | restart => exact ⟨fun _ _ => trivial, h.first⟩
  | list types hp ha => exact h.list hp ha hu
  | attempt hp =>
    refine ⟨fun hreq hctx => ?_, h.first⟩
    have hsupplied := h.supplied hreq hctx
    rw [hp] at hsupplied
    exact ⟨rfl, hsupplied⟩
  | send types resources hp ha hctx => exact h.send hp ha hctx
  | accept hp | fail hp | reject hp | wakeBackoff hp | endBackoff hp | wakeIdle hp
  | beginHeartbeat hp | endHeartbeat hp =>
    exact ⟨fun hreq hctx => (h.absurd_phase hreq hctx hp not_false).elim, h.first⟩
  | abort hc | exit hc =>
    exact ⟨fun _ hctx => absurd (hctx.symm.trans hc) (by simp), h.first⟩

theorem run_secured (h : Run (Guarded Step Undisturbed) r l v) (hr : Secured r) : Secured v :=
  h.preserves hr fun _ _ _ hs hstep => secured_step hs hstep.1 hstep.2

def SendsEmpty (r : Registrar) : Prop :=
  ∃ l v p, Run (Guarded Step Undisturbed) r l v ∧ v.requests.head? = some p ∧ p.serviceTypes = []

theorem undisturbed_moved : Undisturbed r .moved := by
  intro _ _
  trivial

theorem sendsEmpty_building (answer : Option (List String)) (hp : r.phase = .building caller since)
    (hreq : r.requests = []) (hctx : r.cancelled = false) (ha : Answers r since answer)
    (hnil : answer.getD [] = []) : SendsEmpty r := by
  refine ⟨[.sent (buildPayload r.config answer none)], _, buildPayload r.config answer none,
    .single ⟨fun _ _ => trivial, .send answer none hp ha hctx⟩, ?_, hnil⟩
  simp [hreq]

theorem sendsEmpty_attempting (answer : Option (List String)) (hp : r.phase = .attempting caller)
    (hreq : r.requests = []) (hctx : r.cancelled = false) (ha : Answers r r.changes answer)
    (hnil : answer.getD [] = []) : SendsEmpty r := by
  obtain ⟨l, v, p, hrun, hhead, hempty⟩ :=
    sendsEmpty_building (r := { r with phase := .building caller r.changes }) answer rfl hreq hctx
      ha hnil
  exact ⟨_, v, p, .cons ⟨undisturbed_moved, .attempt hp hctx⟩ hrun, hhead, hempty⟩

theorem sendsEmpty_of_disturbed (h : Secured r) (hstep : Step r e v) (hu : ¬Undisturbed r e) :
    SendsEmpty v := by
  simp only [Undisturbed, not_forall] at hu
  obtain ⟨hreq, hctx, hu⟩ := hu
  have hsupplied := h.supplied hreq hctx
  cases hstep with
  | change types =>
    cases hp : r.phase with
    | attempting caller =>
      rw [hp] at hu hsupplied
      exact sendsEmpty_attempting (some []) rfl hreq hctx
        ⟨hsupplied.2, fun _ => (Finset.not_nonempty_iff_eq_empty.mp hu).symm⟩ rfl
    | building caller since =>
      rw [hp] at hsupplied
      have hold := hsupplied.1
      exact sendsEmpty_building (some []) rfl hreq hctx
        ⟨hsupplied.2.2, fun heq => by dsimp only at heq; omega⟩ rfl
    | _ =>
      rw [hp] at hu
      exact absurd trivial hu
  | failStore =>
    cases hp : r.phase with
    | attempting caller => exact sendsEmpty_attempting none rfl hreq hctx rfl rfl
    | building caller since => exact sendsEmpty_building none rfl hreq hctx rfl rfl
    | _ =>
      rw [hp] at hu
      exact absurd trivial hu
  | @list since answer hp ha =>
    have hboth : ¬(answer.getD [] ≠ [] → r.advertisable.Nonempty) := by
      rwa [hp] at hu
    obtain ⟨hne, hnone⟩ := Classical.not_imp.mp hboth
    cases answer with
    | none => exact absurd rfl hne
    | some answer =>
      exact sendsEmpty_attempting (some []) (if_pos hne) hreq hctx
        ⟨ha.1, fun _ => (Finset.not_nonempty_iff_eq_empty.mp hnone).symm⟩ rfl
  | _ => exact absurd trivial hu

end DcmRegistrar
