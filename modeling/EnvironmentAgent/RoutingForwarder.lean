import EnvironmentAgent.RoutingEffects

/-! # Provider resolution and forwarding

`resolve.go`, the retry loop of `forwarder.go` and the error classification of `types.go`.
The loop is structural in the attempts that are left after the current one. -/
namespace RoutingForwarder

open AtomicPrograms RoutingCloudEvent RoutingEffects

structure StoreErr where
  provider : String
  cause : String
  deriving DecidableEq, Repr

def resolveProvider (serviceType : String) :
    Routine (Except StoreErr (Option (StoredProvider × ProviderStatus))) := do
  match ← lookup serviceType with
  | none => return .ok none
  | some providerName =>
    match ← getByName providerName with
    | .error e => return .error ⟨providerName, e⟩
    | .ok none => return .ok none
    | .ok (some sp) =>
      -- an empty id is data corruption: never queried, never routed to
      if sp.id = "" then return .ok (some (sp, .unavailable))
      match ← getState sp.id with
      | none => return .ok (some (sp, .unavailable))
      | some status => return .ok (some (sp, status))

/-- Both `publishCE` methods: a failed publish of an outcome event is logged and ignored. -/
def publishOutcome (ceType : String) (data : ResponseData) : Routine Unit := do
  let _ ← publishCE ceType data

def publishError (ctx : ResponseContext) (error message : String) : Routine Unit :=
  publishOutcome typeError (.error ⟨ctx, error, ⟨message, none⟩⟩)

def errorStatusCode : SPError → Option ℤ
  | .response code _ => some code
  | .forwarder code _ => some code
  | .plain _ => none

def isRetryable (e : SPError) : Bool :=
  match errorStatusCode e with
  | none => true
  | some code => decide (500 ≤ code) || decide (code = 429)

def terminalProviderErrorData (e : SPError) (serviceType : String) (ctx : ResponseContext) :
    ErrorData :=
  let providerError := match e with
    | .response code message => some ⟨code, message⟩
    | _ => none
  if isRetryable e then
    ⟨ctx, errorRetryExhausted,
      ⟨"service provider error after retry exhaustion for service type: " ++ serviceType,
        providerError⟩⟩
  else
    ⟨ctx, errorNonRetryable,
      ⟨"service provider returned non-retryable error for service type: " ++ serviceType,
        providerError⟩⟩

theorem terminalProviderErrorData_error (e : SPError) (serviceType : String)
    (ctx : ResponseContext) : (terminalProviderErrorData e serviceType ctx).error =
      if isRetryable e then errorRetryExhausted else errorNonRetryable := by
  unfold terminalProviderErrorData
  dsimp only
  split <;> rfl

structure ForwardParams where
  resourceID : String
  serviceType : String
  spec : Option JsonValue
  eventID : String
  isCreate : Bool
  deriving DecidableEq, Repr

def spCallOf (sp : StoredProvider) (params : ForwardParams) : SPCall :=
  let embedded := sp.type == "embedded"
  if params.isCreate then
    .create sp.endpoint embedded
      ⟨params.resourceID, params.serviceType, params.spec, params.eventID⟩
  else
    .delete sp.endpoint embedded ⟨params.resourceID, params.serviceType, params.eventID⟩

def forwardToSP (sp : StoredProvider) (params : ForwardParams) : Routine (Option SPError) := do
  match ← spCall (spCallOf sp params) with
  | .ok => return none
  | .err e => return some e
  | .panicked => .raise

inductive ForwardErr where
  | context
  | sp (e : SPError)
  deriving DecidableEq, Repr

def forwardAttempts (sp : StoredProvider) (params : ForwardParams) (left attempt : ℕ) :
    Routine (Option ForwardErr) := do
  match ← forwardToSP sp params with
  | none => return none
  | some e =>
    if ← ctxErr then return some .context
    if !isRetryable e then return some (.sp e)
    match left with
    | 0 => return some (.sp e)
    | left + 1 =>
      if ← backoffTimer attempt then return some .context
      forwardAttempts sp params left (attempt + 1)

def forwardWithRetry (sp : StoredProvider) (params : ForwardParams) (maxAttempts : ℤ) :
    Routine (Option ForwardErr) :=
  forwardAttempts sp params ((max 1 maxAttempts).toNat - 1) 0

def IsRead : Op → Prop
  | .lookup _ | .getByName _ | .getState _ => True
  | _ => False

inductive Resolves (serviceType : String) :
    List RoutingEvent → Except StoreErr (Option (StoredProvider × ProviderStatus)) → Prop where
  | unregistered : Resolves serviceType [⟨.lookup serviceType, none⟩] (.ok none)
  | storeError (name e : String) : Resolves serviceType
      [⟨.lookup serviceType, some name⟩, ⟨.getByName name, .error e⟩] (.error ⟨name, e⟩)
  | missing (name : String) : Resolves serviceType
      [⟨.lookup serviceType, some name⟩, ⟨.getByName name, .ok none⟩] (.ok none)
  | corrupt (name : String) (sp : StoredProvider) (h : sp.id = "") : Resolves serviceType
      [⟨.lookup serviceType, some name⟩, ⟨.getByName name, .ok (some sp)⟩]
      (.ok (some (sp, .unavailable)))
  | tracked (name : String) (sp : StoredProvider) (h : sp.id ≠ "")
      (status : Option ProviderStatus) : Resolves serviceType
      [⟨.lookup serviceType, some name⟩, ⟨.getByName name, .ok (some sp)⟩,
        ⟨.getState sp.id, status⟩]
      (.ok (some (sp, status.getD .unavailable)))

variable {t : List RoutingEvent}

theorem Resolves.isRead {serviceType : String}
    {res : Except StoreErr (Option (StoredProvider × ProviderStatus))}
    (h : Resolves serviceType t res) : ∀ e ∈ t, IsRead e.1 := by
  cases h <;> simp [IsRead]

theorem resolveProvider_follows {M : Type} {A : Monitor routing M} {m : M} (serviceType : String)
    {Q : Option (Except StoreErr (Option (StoredProvider × ProviderStatus))) → M → Prop}
    (reads : ∀ m o, IsRead o → A.allowed m o)
    (resolved : ∀ t res, Resolves serviceType t res → Q (some res) (A.after m t)) :
    Follows A (resolveProvider serviceType) m Q := by
  refine ⟨reads _ _ trivial, fun name => ?_⟩
  cases name with
  | none => exact resolved _ _ .unregistered
  | some name =>
    refine ⟨reads _ _ trivial, fun found => ?_⟩
    rcases found with e | _ | sp
    · exact resolved _ _ (.storeError name e)
    · exact resolved _ _ (.missing name)
    · change Follows A (if sp.id = "" then _ else _) _ Q
      split
      · exact resolved _ _ (.corrupt name sp ‹_›)
      · refine ⟨reads _ _ trivial, fun status => ?_⟩
        cases status with
        | none => exact resolved _ _ (.tracked name sp ‹_› none)
        | some status => exact resolved _ _ (.tracked name sp ‹_› (some status))

theorem resolveProvider_follows_ignored {M : Type} {A : Monitor routing M} {m : M}
    (serviceType : String)
    {Q : Option (Except StoreErr (Option (StoredProvider × ProviderStatus))) → M → Prop}
    (hA : A.Ignores IsRead) (resolved : ∀ res, Q (some res) m) :
    Follows A (resolveProvider serviceType) m Q := by
  refine resolveProvider_follows serviceType (fun m o ho => (hA m o ho).1) ?_
  intro t res h
  rw [A.after_ignored hA h.isRead]
  exact resolved res

structure Registry where
  lookup : String → Option String
  getByName : String → Except String (Option StoredProvider)
  getState : String → Option ProviderStatus

def Registry.Reads (reg : Registry) : RoutingEvent → Prop
  | ⟨.lookup serviceType, x⟩ => reg.lookup serviceType = x
  | ⟨.getByName name, x⟩ => reg.getByName name = x
  | ⟨.getState id, x⟩ => reg.getState id = x
  | _ => True

def Registry.Sees (reg : Registry) (t : List RoutingEvent) : Prop := ∀ e ∈ t, reg.Reads e

def Registry.resolve (reg : Registry) (serviceType : String) :
    Except StoreErr (Option (StoredProvider × ProviderStatus)) :=
  match reg.lookup serviceType with
  | none => .ok none
  | some name =>
    match reg.getByName name with
    | .error e => .error ⟨name, e⟩
    | .ok none => .ok none
    | .ok (some sp) =>
      if sp.id = "" then .ok (some (sp, .unavailable))
      else .ok (some (sp, (reg.getState sp.id).getD .unavailable))

variable {reg : Registry}

theorem Registry.sees_append {u : List RoutingEvent} :
    reg.Sees (t ++ u) ↔ reg.Sees t ∧ reg.Sees u := by
  simp [Registry.Sees, or_imp, forall_and]

theorem Registry.sees_of_not_read (h : ∀ e ∈ t, ¬ IsRead e.1) : reg.Sees t := by
  rintro ⟨o, x⟩ he
  cases o <;> first | trivial | exact (h _ he trivial).elim

theorem Registry.resolves {serviceType : String}
    {result : Except StoreErr (Option (StoredProvider × ProviderStatus))}
    (h : Resolves serviceType t result) (hsees : reg.Sees t) :
    reg.resolve serviceType = result := by
  cases h with
  | unregistered => simp_all [Registry.Sees, Registry.Reads, Registry.resolve]
  | storeError name e => simp_all [Registry.Sees, Registry.Reads, Registry.resolve]
  | missing name => simp_all [Registry.Sees, Registry.Reads, Registry.resolve]
  | corrupt name sp hid => simp_all [Registry.Sees, Registry.Reads, Registry.resolve]
  | tracked name sp hid status => simp_all [Registry.Sees, Registry.Reads, Registry.resolve]

theorem Registry.may_resolve (reg : Registry) (serviceType : String) :
    May (resolveProvider serviceType) fun out t =>
      out = some (reg.resolve serviceType) ∧ Resolves serviceType t (reg.resolve serviceType) ∧
        reg.Sees t := by
  suffices h : May (resolveProvider serviceType) fun out t =>
      (∃ result, out = some result ∧ Resolves serviceType t result) ∧ reg.Sees t from
    h.mono fun out t ⟨⟨result, hout, hres⟩, hsees⟩ =>
      reg.resolves hres hsees ▸ ⟨hout, hres, hsees⟩
  refine ⟨reg.lookup serviceType, ?_⟩
  cases hname : reg.lookup serviceType with
  | none => exact ⟨⟨_, rfl, .unregistered⟩, by simp [Registry.Sees, Registry.Reads, hname]⟩
  | some name =>
    refine ⟨reg.getByName name, ?_⟩
    match hfound : reg.getByName name with
    | .error e =>
      exact ⟨⟨_, rfl, .storeError name e⟩, by simp [Registry.Sees, Registry.Reads, hname, hfound]⟩
    | .ok none =>
      exact ⟨⟨_, rfl, .missing name⟩, by simp [Registry.Sees, Registry.Reads, hname, hfound]⟩
    | .ok (some sp) =>
      change May (if sp.id = "" then _ else _) _
      split
      · exact ⟨⟨_, rfl, .corrupt name sp ‹_›⟩,
          by simp [Registry.Sees, Registry.Reads, hname, hfound]⟩
      · refine ⟨reg.getState sp.id, ?_⟩
        cases hstatus : reg.getState sp.id with
        | none =>
          exact ⟨⟨_, rfl, .tracked name sp ‹_› none⟩,
            by simp [Registry.Sees, Registry.Reads, hname, hfound, hstatus]⟩
        | some status =>
          exact ⟨⟨_, rfl, .tracked name sp ‹_› (some status)⟩,
            by simp [Registry.Sees, Registry.Reads, hname, hfound, hstatus]⟩

def IsContext : Op → Prop
  | .ctxErr | .backoffTimer _ => True
  | _ => False

/-- The loop rule of a forward. `I` holds before every attempt and `J e` from an error `e`
until the next attempt, through the looks at the context in between. -/
theorem forwardAttempts_follows {M : Type} {A : Monitor routing M} {sp : StoredProvider}
    {params : ForwardParams} {Q : Option (Option ForwardErr) → M → Prop}
    (I : M → Prop) (J : SPError → M → Prop)
    (call : ∀ m, I m → A.allowed m (.sp (spCallOf sp params)))
    (ok : ∀ m, I m → Q (some none) (A.next m ⟨.sp (spCallOf sp params), .ok⟩))
    (unwind : ∀ m, I m → Q none (A.next m ⟨.sp (spCallOf sp params), .panicked⟩))
    (err : ∀ m e, I m → J e (A.next m ⟨.sp (spCallOf sp params), .err e⟩))
    (context : ∀ m e o, IsContext o → J e m → A.allowed m o ∧ ∀ x, J e (A.next m ⟨o, x⟩))
    (ended : ∀ m e, J e m → Q (some (some .context)) m)
    (failed : ∀ m e, J e m → Q (some (some (.sp e))) m)
    (again : ∀ m e, J e m → isRetryable e = true → I m)
    (left attempt : ℕ) {m : M} (hm : I m) :
    Follows A (forwardAttempts sp params left attempt) m Q := by
  induction left using Nat.strongRecOn generalizing attempt m with
  | ind left ih =>
    unfold forwardAttempts
    refine ⟨call m hm, fun x => ?_⟩
    cases x with
    | ok => exact ok m hm
    | panicked => exact unwind m hm
    | err e =>
      obtain ⟨hctx, hlooked⟩ := context _ e .ctxErr trivial (err m e hm)
      refine ⟨hctx, fun b => ?_⟩
      cases b with
      | true => exact ended _ e (hlooked true)
      | false =>
        change Follows A (if !isRetryable e then _ else _) _ Q
        split
        · exact failed _ e (hlooked false)
        · rename_i hr
          cases left with
          | zero => exact failed _ e (hlooked false)
          | succ left =>
            obtain ⟨htimer, hwaited⟩ := context _ e (.backoffTimer attempt) trivial (hlooked false)
            refine ⟨htimer, fun b => ?_⟩
            cases b with
            | true => exact ended _ e (hwaited true)
            | false =>
              exact ih left (Nat.lt_succ_self left) (attempt + 1)
                (again _ e (hwaited false) (by simpa using hr))

theorem spCallOf_resourceID (sp : StoredProvider) (params : ForwardParams) :
    (spCallOf sp params).resourceID = params.resourceID := by
  unfold spCallOf
  cases params.isCreate <;> rfl

end RoutingForwarder
