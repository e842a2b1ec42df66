import EnvironmentAgent.LabelledRuns
import Mathlib.Data.Int.Notation

/-! # Tokens for the control plane

`dcm/token.go`. `Token` holds the lock until it returns, so that its calls take effect one after
another; times are counted from the zero time. -/
namespace TokenSource

open LabelledRuns

/-- What the client credentials library returns, the status being 0 where it has no response. -/
inductive Response where
  | token (accessToken : String) (expiry : ℤ)
  | retrieveError (status : ℕ) (errorCode errorDescription : String)
  | failed (err : String)
  deriving DecidableEq

structure ClientCredentialsTokenSource where
  expiryDelta : ℤ
  accessToken : String
  expiry : ℤ
  deriving DecidableEq

def defaultExpiryDelta : ℤ := 10 * 1000000000

def newClientCredentialsTokenSource : ClientCredentialsTokenSource := ⟨defaultExpiryDelta, "", 0⟩

def fetchToken (now : ℤ) : Response → Except String (String × ℤ)
  | .token accessToken expiry =>
    if expiry = 0 ∨ expiry ≤ now then .error "token endpoint returned invalid expires_in"
    else .ok (accessToken, expiry)
  | .retrieveError status errorCode errorDescription =>
    let returned := "token endpoint returned HTTP " ++ toString status
    if errorCode ≠ "" ∧ errorDescription ≠ "" then
      .error (returned ++ ": " ++ errorCode ++ ": " ++ errorDescription)
    else if errorCode ≠ "" then .error (returned ++ ": " ++ errorCode)
    else .error returned
  | .failed err => .error ("token request failed: " ++ err)

/-- The clock is read before the cached token is used, and again when a response is there. -/
structure Call where
  checked : ℤ
  received : ℤ
  ordered : checked ≤ received
  response : Response

def Cached (c : ClientCredentialsTokenSource) (now : ℤ) : Prop :=
  c.accessToken ≠ "" ∧ now < c.expiry - c.expiryDelta

instance (c : ClientCredentialsTokenSource) (now : ℤ) : Decidable (Cached c now) :=
  inferInstanceAs (Decidable (_ ∧ _))

def token (c : ClientCredentialsTokenSource) (x : Call) :
    Except String String × ClientCredentialsTokenSource :=
  if Cached c x.checked then (.ok c.accessToken, c)
  else
    match fetchToken x.received x.response with
    | .error err => (.error ("fetching client-credentials token: " ++ err), c)
    | .ok (accessToken, expiry) => (.ok accessToken, { c with accessToken, expiry })

structure Answered where
  call : Call
  requested : Bool
  result : Except String String

def Step (c : ClientCredentialsTokenSource) (e : Answered) (c' : ClientCredentialsTokenSource) :
    Prop :=
  e.requested = !decide (Cached c e.call.checked) ∧ token c e.call = (e.result, c')

def Answered.Fetched (e : Answered) (t : String) (expiry : ℤ) : Prop :=
  e.requested = true ∧ fetchToken e.call.received e.call.response = .ok (t, expiry)

section

variable {c c' : ClientCredentialsTokenSource} {e : Answered} {l : List Answered} {t : String}
  {expiry : ℤ}

theorem fetched_lt (h : e.Fetched t expiry) : e.call.checked < expiry := by
  obtain ⟨-, hfetch⟩ := h
  have hordered := e.call.ordered
  unfold fetchToken at hfetch
  split at hfetch
  · split at hfetch
    · cases hfetch
    · obtain ⟨rfl, rfl⟩ := Prod.mk.inj (Except.ok.inj hfetch)
      omega
  · dsimp only at hfetch
    split at hfetch
    · cases hfetch
    · split at hfetch <;> cases hfetch
  · cases hfetch

theorem step_cases (h : Step c e c') :
    (Cached c e.call.checked ∧ e.requested = false ∧ e.result = .ok c.accessToken ∧ c' = c) ∨
    (¬ Cached c e.call.checked ∧ e.requested = true ∧
      ((∃ err, e.result = .error err) ∧ (∀ t expiry, ¬ e.Fetched t expiry) ∧ c' = c ∨
      ∃ t expiry, e.Fetched t expiry ∧ e.result = .ok t ∧
        c' = { c with accessToken := t, expiry })) := by
  obtain ⟨hrequested, htoken⟩ := h
  unfold token at htoken
  by_cases hcached : Cached c e.call.checked
  · rw [if_pos hcached] at htoken
    obtain ⟨hresult, rfl⟩ := Prod.mk.inj htoken
    exact Or.inl ⟨hcached, by simpa [hcached] using hrequested, hresult.symm, rfl⟩
  · have hrequested : e.requested = true := by simpa [hcached] using hrequested
    refine Or.inr ⟨hcached, hrequested, ?_⟩
    rw [if_neg hcached] at htoken
    cases hfetch : fetchToken e.call.received e.call.response with
    | error err =>
      rw [hfetch] at htoken
      obtain ⟨hresult, rfl⟩ := Prod.mk.inj htoken
      refine Or.inl ⟨⟨_, hresult.symm⟩, fun t expiry hfetched => ?_, rfl⟩
      rw [hfetched.2] at hfetch
      cases hfetch
    | ok fetched =>
      rw [hfetch] at htoken
      obtain ⟨hresult, rfl⟩ := Prod.mk.inj htoken
      exact Or.inr ⟨fetched.1, fetched.2, ⟨hrequested, hfetch⟩, hresult.symm, rfl⟩

/-- The source has the token that was fetched last, and a token fetched before it was about to
expire at some call since. -/
structure Remembers (l : List Answered) (c : ClientCredentialsTokenSource) : Prop where
  delta : c.expiryDelta = defaultExpiryDelta
  latest : c.accessToken ≠ "" → ∃ e ∈ l, e.Fetched c.accessToken c.expiry
  older : ∀ e ∈ l, ∀ t expiry, e.Fetched t expiry → t ≠ "" →
    t = c.accessToken ∧ expiry = c.expiry ∨
      ∃ f ∈ l, expiry ≤ f.call.checked + defaultExpiryDelta

theorem Remembers.unfetched (h : Remembers l c) (hnone : ∀ t expiry, ¬ e.Fetched t expiry) :
    Remembers (l ++ [e]) c where
  delta := h.delta
  latest hne := by
    obtain ⟨f, hf, hfetched⟩ := h.latest hne
    exact ⟨f, List.mem_append_left _ hf, hfetched⟩
  older f hf t expiry hfetched hne := by
    rcases List.mem_append.mp hf with hf | hf
    · refine (h.older f hf t expiry hfetched hne).imp_right ?_
      rintro ⟨g, hg, hexpiry⟩
      exact ⟨g, List.mem_append_left _ hg, hexpiry⟩
    · rw [List.mem_singleton.mp hf] at hfetched
      exact absurd hfetched (hnone t expiry)

theorem Remembers.refreshed (h : Remembers l c) (hcached : ¬ Cached c e.call.checked)
    (hfetched : e.Fetched t expiry) :
    Remembers (l ++ [e]) { c with accessToken := t, expiry } where
  delta := h.delta
  latest _ := ⟨e, List.mem_append_right _ (List.mem_singleton_self e), hfetched⟩
  older f hf t' expiry' hfetched' hne := by
    rcases List.mem_append.mp hf with hf | hf
    · refine Or.inr ?_
      rcases h.older f hf t' expiry' hfetched' hne with ⟨rfl, rfl⟩ | ⟨g, hg, hexpiry⟩
      · refine ⟨e, List.mem_append_right _ (List.mem_singleton_self e), ?_⟩
        have hlate := not_and.mp hcached hne
        rw [h.delta] at hlate
        omega
      · exact ⟨g, List.mem_append_left _ hg, hexpiry⟩
    · rw [List.mem_singleton.mp hf] at hfetched'
      obtain ⟨rfl, rfl⟩ := Prod.mk.inj (Except.ok.inj (hfetched'.2.symm.trans hfetched.2))
      exact Or.inl ⟨rfl, rfl⟩

theorem run_remembers (h : Run Step newClientCredentialsTokenSource l c) : Remembers l c := by
  refine h.invariant ⟨rfl, fun hne => (hne rfl).elim, List.forall_mem_nil _⟩ ?_
  intro l c e c' ih hstep
  obtain ⟨-, hrequested, -, rfl⟩ | ⟨hcached, -, ⟨-, hnone, rfl⟩ | ⟨t, expiry, hfetched, -, rfl⟩⟩ :=
    step_cases hstep
  · refine ih.unfetched fun t expiry hfetched => ?_
    exact absurd hfetched.1 (by simp [hrequested])
  · exact ih.unfetched hnone
  · exact ih.refreshed hcached hfetched

end

/-- Where no call begins before the one before it has returned, every token handed out was
fetched in this run and has not expired, one from the cache not for another ten seconds. The
endpoint is asked again only when each token fetched before is about to expire. -/
theorem token_run (earlier later : List Answered) (e : Answered)
    {c : ClientCredentialsTokenSource}
    (h : Run Step newClientCredentialsTokenSource (earlier ++ e :: later) c)
    (hclock : (earlier ++ e :: later).Pairwise fun x y => x.call.received ≤ y.call.checked) :
    (∀ t, e.result = .ok t → ∃ f ∈ earlier ++ [e], ∃ expiry, f.Fetched t expiry ∧
      e.call.checked < expiry ∧
        (e.requested = false → e.call.checked + defaultExpiryDelta < expiry)) ∧
    (e.requested = true → ∀ f ∈ earlier, ∀ t expiry, f.Fetched t expiry → t ≠ "" →
      expiry ≤ e.call.checked + defaultExpiryDelta) := by
  obtain ⟨c₀, hearlier, hrest⟩ := run_append.mp h
  obtain ⟨c₁, hstep, -⟩ := run_cons.mp hrest
  have hknown := run_remembers hearlier
  have hdelta : 0 < defaultExpiryDelta := by decide
  obtain ⟨hcached, hrequested, hresult, -⟩ | ⟨hcached, hrequested, hout⟩ := step_cases hstep
  · refine ⟨fun t ht => ?_, fun hyes => ?_⟩
    · obtain rfl := Except.ok.inj (ht.symm.trans hresult)
      obtain ⟨f, hf, hfetched⟩ := hknown.latest hcached.1
      have hlive := hcached.2
      rw [hknown.delta] at hlive
      exact ⟨f, List.mem_append_left _ hf, _, hfetched, by omega, fun _ => by omega⟩
    · rw [hrequested] at hyes
      cases hyes
  · refine ⟨fun t ht => ?_, fun _ f hf t expiry hfetched hne => ?_⟩
    · obtain ⟨⟨err, herr⟩, -⟩ | ⟨t', expiry, hfetched, hresult, -⟩ := hout
      · rw [herr] at ht
        cases ht
      · obtain rfl := Except.ok.inj (ht.symm.trans hresult)
        refine ⟨e, List.mem_append_right _ (List.mem_singleton_self e), expiry, hfetched,
          fetched_lt hfetched, fun hno => ?_⟩
        rw [hrequested] at hno
        cases hno
    · rcases hknown.older f hf t expiry hfetched hne with ⟨rfl, rfl⟩ | ⟨g, hg, hexpiry⟩
      · have hlate := not_and.mp hcached hne
        rw [hknown.delta] at hlate
        omega
      · have hafter := (List.pairwise_append.mp hclock).2.2 g hg e List.mem_cons_self
        have hordered := g.call.ordered
        omega

def firstCall : Answered := ⟨⟨1, 2, by decide, .token "a" 20000000002⟩, true, .ok "a"⟩

def secondCall : Answered := ⟨⟨3, 3, by decide, .failed "down"⟩, false, .ok "a"⟩

theorem token_run_cached : ∃ f ∈ [firstCall] ++ [secondCall], ∃ expiry, f.Fetched "a" expiry ∧
    3 < expiry ∧ (secondCall.requested = false → 3 + defaultExpiryDelta < expiry) :=
  (token_run [firstCall] [] secondCall (c := ⟨defaultExpiryDelta, "a", 20000000002⟩)
    ((Run.single ⟨rfl, rfl⟩).append (.single ⟨rfl, rfl⟩)) (by decide)).1 "a" rfl

end TokenSource
