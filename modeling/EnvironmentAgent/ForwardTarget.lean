import EnvironmentAgent.RetryBatches

/-! # The target of a retried request

A message of the retry topic is to go to the provider that holds its service type when it is
handled, and only while that provider is Ready. -/
namespace ForwardTarget

open AtomicPrograms RoutingCloudEvent RoutingEffects RoutingTraces RetryProcessor RetryForwarding
open RoutingForwarder (Registry Resolves StoreErr spCallOf ForwardParams)
open RetryBatches RoutingSharedState
open RetryDedup (vmProcessor vmProvider vmItem)

def Resolved (serviceType : String) (t : List RoutingEvent) : Prop :=
  ∃ x : Option String, (⟨.lookup serviceType, x⟩ : RoutingEvent) ∈ t

/-- What is asked of the events of one message, handled in one state of the registry. A
create dropped by the deny list is never resolved. -/
structure HolderOnly (cfg : ProcessorConfig) (reg : Registry) (m : Msg) (res : CEResult)
    (t : List RoutingEvent) : Prop where
  target : ∀ c ∈ callsIn t, ∃ holder,
    reg.resolve res.serviceType = .ok (some (holder, .ready)) ∧
      c.1 = spCallOf holder (forwardParams res)
  unhealthy : ∀ holder, reg.resolve res.serviceType = .ok (some (holder, .unhealthy)) →
    Resolved res.serviceType t → resolutions t = [(m, .nakWithDelay)] ∧ emissions t = []
  unavailable : ∀ holder, reg.resolve res.serviceType = .ok (some (holder, .unavailable)) →
    Resolved res.serviceType t →
      ∃ before after, t = before ++ after ∧ resolutions before = [] ∧ Rejected cfg m res after

def SameTarget (sp sp' : StoredProvider) : Prop :=
  sp.endpoint = sp'.endpoint ∧ (sp.type = "embedded" ↔ sp'.type = "embedded")

def Safe (cfg : ProcessorConfig) (reg : Registry) (sp : StoredProvider) (item : ParsedMessage) :
    Prop :=
  item.res.serviceType = sp.serviceType →
    match reg.resolve item.res.serviceType with
    | .ok (some (_, .unhealthy)) => False
    | .ok (some (holder, .ready)) => cfg.forwarder = true → SameTarget holder sp
    | _ => True

variable {sp : StoredProvider}

theorem spCallOf_eq_iff {sp' : StoredProvider} {params : ForwardParams} :
    spCallOf sp params = spCallOf sp' params ↔ SameTarget sp sp' := by
  have hemb : ((sp.type == "embedded") = (sp'.type == "embedded")) ↔
      (sp.type = "embedded" ↔ sp'.type = "embedded") := by
    rw [Bool.eq_iff_iff, beq_iff_eq, beq_iff_eq]
  unfold spCallOf SameTarget
  cases params.isCreate <;> simp [hemb]

variable {item : ParsedMessage}

section Item

variable {cfg : ProcessorConfig} {reg : Registry} {m : Msg} {res : CEResult}
  {before reads t : List RoutingEvent} {out : Option Unit}
  {result : Except StoreErr (Option (StoredProvider × ProviderStatus))}

theorem holderOnly_of (hclear : Clear before) (hres : reg.resolve res.serviceType = result)
    (target : ∀ c ∈ callsIn t, ∃ holder, result = .ok (some (holder, .ready)) ∧
      c.1 = spCallOf holder (forwardParams res))
    (unhealthy : ∀ holder, result = .ok (some (holder, .unhealthy)) →
      resolutions t = [(m, .nakWithDelay)] ∧ emissions t = [])
    (unavailable : ∀ holder, result = .ok (some (holder, .unavailable)) →
      Rejected cfg m res t) : HolderOnly cfg reg m res (before ++ t) where
  target := by simpa [hclear.calls, hres] using target
  unhealthy := by
    intro holder h _
    simpa [hclear.resolutions, hclear.emissions] using unhealthy holder (hres.symm.trans h)
  unavailable := fun holder h _ =>
    ⟨before, t, rfl, hclear.resolutions, unavailable holder (hres.symm.trans h)⟩

theorem requeued_naked (h : Requeued cfg m true t) :
    callsIn t = [] ∧ resolutions t = [(m, .nakWithDelay)] ∧ emissions t = [] := by
  cases h
  exact ⟨rfl, rfl, rfl⟩

theorem rejected_calls (h : Rejected cfg m res t) : callsIn t = [] := by
  cases h
  rfl

theorem routed_holderOnly (hb : Clear before) (hreads : Resolves res.serviceType reads result)
    (hsees : reg.Sees reads) (h : Routed cfg m res true result t out) :
    HolderOnly cfg reg m res (before ++ (reads ++ t)) := by
  rw [← List.append_assoc]
  refine holderOnly_of (hb.append (resolves_clear hreads)) (reg.resolves hreads hsees) ?_ ?_ ?_
  · intro c hc
    cases h with
    | storeError e b => simp at hc
    | unregistered h => simp [requeued_naked h] at hc
    | unavailable sp h => simp [rejected_calls h] at hc
    | unhealthy sp h => simp [requeued_naked h] at hc
    | @finished sp t h b => exact ⟨sp, rfl, h.calls c (by simpa using hc)⟩
    | @deferred sp t u h hq =>
      exact ⟨sp, rfl, h.calls c (by simpa [requeued_naked hq] using hc)⟩
    | @panicked sp t h => exact ⟨sp, rfl, h.calls c hc⟩
  · rintro holder rfl
    cases h with
    | unhealthy sp h => exact (requeued_naked h).2
  · rintro holder rfl
    cases h with
    | unavailable sp h => exact h

theorem captured_holderOnly (hb : Clear before)
    (hreads : Resolves item.res.serviceType reads result) (hsees : reg.Sees reads)
    (heq : item.res.serviceType = sp.serviceType) (hsafe : Safe cfg reg sp item)
    (h : Captured cfg sp item result t out) :
    HolderOnly cfg reg item.msg item.res (before ++ (reads ++ t)) := by
  have hres := reg.resolves hreads hsees
  have hsafe := hsafe heq
  rw [hres] at hsafe
  rw [← List.append_assoc]
  -- a forward reaches the captured provider, which must be the holder's target
  have reaches : ∀ {holder status u fwd}, status ≠ .unavailable →
      result = .ok (some (holder, status)) → Forward cfg sp item.res u fwd →
      ∀ c ∈ callsIn u, ∃ holder, result = .ok (some (holder, .ready)) ∧
        c.1 = spCallOf holder (forwardParams item.res) := by
    rintro holder status u fwd hs rfl hfwd c hc
    cases status with
    | unavailable => exact absurd rfl hs
    | unhealthy => exact hsafe.elim
    | ready =>
      have hf : cfg.forwarder = true := by
        by_contra hf
        simp [hfwd.configured (by simpa using hf)] at hc
      exact ⟨holder, rfl, (hfwd.calls c hc).trans (spCallOf_eq_iff.mpr (hsafe hf)).symm⟩
  refine holderOnly_of (hb.append (resolves_clear hreads)) hres ?_ ?_ ?_
  · intro c hc
    cases h with
    | storeError e b => simp at hc
    | unregistered h => simp [rejected_calls h] at hc
    | unavailable sp h => simp [rejected_calls h] at hc
    | @forwarded holder status hs b t done h b' =>
      refine reaches hs rfl h c ?_
      cases done <;> simpa using hc
    | panicked holder hs b h => exact reaches hs rfl h c (by simpa using hc)
  · rintro holder rfl
    exact hsafe.elim
  · rintro holder rfl
    cases h with
    | unavailable sp h => exact h
    | forwarded holder hs b h b' => exact absurd rfl hs
    | panicked holder hs b h => exact absurd rfl hs

theorem denied_holderOnly (h : Denied m res t) : HolderOnly cfg reg m res t := by
  cases h with
  | acked hc b =>
    refine ⟨by simp, ?_, ?_⟩
    · rintro holder - ⟨x, hx⟩
      simp at hx
    · rintro holder - ⟨x, hx⟩
      simp at hx

theorem transition_holderOnly (hsafe : Safe cfg reg sp item) (hsees : reg.Sees t)
    (h : Transitioned cfg sp item t out) : HolderOnly cfg reg item.msg item.res t := by
  cases h with
  | denied h => exact denied_holderOnly h
  | @elsewhere hne t reads u ht b result out hreads h =>
    have hclear : Clear (t ++ [⟨.inProgress item.msg, b⟩]) := ht.clear.append ⟨rfl, rfl, rfl⟩
    have hreadsSeen : reg.Sees reads := fun e he => hsees e (by simp [he])
    simpa using routed_holderOnly hclear hreads hreadsSeen h
  | @captured heq t reads u ht result out hreads h =>
    have hreadsSeen : reg.Sees reads := fun e he => hsees e (by simp [he])
    exact captured_holderOnly ht.clear hreads hreadsSeen heq hsafe h

theorem drained_holderOnly (hsees : reg.Sees t) (h : Drained cfg m res true t out) :
    HolderOnly cfg reg m res t := by
  cases h with
  | denied h => exact denied_holderOnly h
  | @routed t reads u ht b result out hreads h =>
    have hclear : Clear (t ++ [⟨.inProgress m, b⟩]) := ht.clear.append ⟨rfl, rfl, rfl⟩
    have hreadsSeen : reg.Sees reads := fun e he => hsees e (by simp [he])
    simpa using routed_holderOnly hclear hreads hreadsSeen h

theorem transitionItem_completes (cfg : ProcessorConfig) (sp : StoredProvider)
    (item : ParsedMessage) : ∃ t, Exec (processTransitionItem cfg sp item) t (some ()) := by
  have h : May (processTransitionItem cfg sp item) fun out _ => out = some () := by
    refine deniedCreate_may.bind ?_
    rintro _ t rfl
    refine ⟨false, rfl, ?_⟩
    change May (if item.res.serviceType ≠ sp.serviceType then _ else _) _
    -- with no provider registered the item is requeued or rejected
    split
    · exact ⟨true, none, true, rfl⟩
    · exact ⟨none, true, true, rfl⟩
  obtain ⟨t, _, he, rfl⟩ := may_iff.mp h
  exact ⟨t, he⟩

theorem resolves_resolved {serviceType : String} (h : Resolves serviceType t result) :
    Resolved serviceType t := by
  cases h <;> exact ⟨_, List.mem_cons_self⟩

theorem forwardCaptured_may (reg : Registry) (sp : StoredProvider) (item : ParsedMessage) :
    May (forwardCaptured cfg sp item) fun out t => out = some () ∧ reg.Sees t ∧
      emissions t ≠ [] ∧
        (cfg.forwarder = true → (spCallOf sp (forwardParams item.res), .ok) ∈ callsIn t) := by
  refine ⟨true, (forwardRequest_may.and_yields forwardRequest_yields).bind ?_⟩
  rintro _ t ⟨⟨rfl, hce, hcall⟩, hfwd⟩
  refine ⟨true, rfl, true, rfl, ?_, by simp [hce], fun hf => by simp [hcall hf]⟩
  simp only [Registry.Sees, List.mem_cons, List.mem_append]
  rintro e (rfl | he | rfl | he)
  · trivial
  · exact hfwd.within.sees reg e he
  · trivial
  · simp at he

theorem transitionItem_may {holder : StoredProvider} {status : ProviderStatus}
    (heq : item.res.serviceType = sp.serviceType)
    (hres : reg.resolve item.res.serviceType = .ok (some (holder, status)))
    (hs : status ≠ .unavailable) :
    May (processTransitionItem cfg sp item) fun out t => out = some () ∧ reg.Sees t ∧
      Resolved item.res.serviceType t ∧ emissions t ≠ [] ∧
        (cfg.forwarder = true → (spCallOf sp (forwardParams item.res), .ok) ∈ callsIn t) := by
  refine (deniedCreate_may.and_yields deniedCreate_yields).bind ?_
  rintro _ t ⟨rfl, hsilent, -⟩
  refine ⟨false, rfl, ?_⟩
  change May (if item.res.serviceType ≠ sp.serviceType then _ else _) _
  rw [if_neg (not_not.mpr heq)]
  refine (reg.may_resolve item.res.serviceType).bind ?_
  rintro _ reads ⟨rfl, hreads, hsees⟩
  refine ⟨_, rfl, ?_⟩
  obtain ⟨x, hx⟩ := resolves_resolved hreads
  have finish : May (forwardCaptured cfg sp item) fun out u => out = some () ∧
      reg.Sees (t ++ (reads ++ u)) ∧ Resolved item.res.serviceType (t ++ (reads ++ u)) ∧
        emissions (t ++ (reads ++ u)) ≠ [] ∧ (cfg.forwarder = true →
          (spCallOf sp (forwardParams item.res), .ok) ∈ callsIn (t ++ (reads ++ u))) := by
    refine (forwardCaptured_may reg sp item).mono ?_
    rintro out u ⟨rfl, hu, hce, hcall⟩
    refine ⟨rfl, ?_, ⟨x, by simp [hx]⟩, by simp [hce], fun hf => by simp [hcall hf]⟩
    exact Registry.sees_append.mpr ⟨hsilent.forwarding.sees reg, Registry.sees_append.mpr ⟨hsees, hu⟩⟩
  rw [hres]
  cases status with
  | unavailable => exact absurd rfl hs
  | ready => exact finish
  | unhealthy => exact finish

theorem breaks_of_not_safe (h : ¬ Safe cfg reg sp item) :
    ∃ t, Exec (processTransitionItem cfg sp item) t (some ()) ∧ reg.Sees t ∧
      ¬ HolderOnly cfg reg item.msg item.res t := by
  unfold Safe at h
  push Not at h
  obtain ⟨heq, h⟩ := h
  match hres : reg.resolve item.res.serviceType with
  | .error e => simp [hres] at h
  | .ok none => simp [hres] at h
  | .ok (some (holder, .unavailable)) => simp [hres] at h
  | .ok (some (holder, .unhealthy)) =>
    have hmay : May (processTransitionItem cfg sp item) _ := transitionItem_may heq hres nofun
    obtain ⟨t, _, he, rfl, hsees, hresolved, hce, -⟩ := may_iff.mp hmay
    exact ⟨t, he, hsees, fun hok => hce (hok.unhealthy holder hres hresolved).2⟩
  | .ok (some (holder, .ready)) =>
    simp only [hres, Classical.not_imp] at h
    obtain ⟨t, _, he, rfl, hsees, -, -, hcall⟩ := may_iff.mp (transitionItem_may heq hres nofun)
    refine ⟨t, he, hsees, fun hok => h.2 ?_⟩
    obtain ⟨holder', hres', hsame⟩ := hok.target _ (hcall h.1)
    cases hres.symm.trans hres'
    exact spCallOf_eq_iff.mp hsame.symm

end Item

def HoldersOnly (cfg : ProcessorConfig) (reg : ℕ → Registry) (items : List ParsedMessage)
    (segs : List (List RoutingEvent)) : Prop :=
  ∀ i item seg, items[i]? = some item → segs[i]? = some seg → (reg i).Sees seg →
    HolderOnly cfg (reg i) item.msg item.res seg

theorem transition_holders_iff (cfg : ProcessorConfig) (sp : StoredProvider)
    (items : List ParsedMessage) (reg : ℕ → Registry) :
    (∀ segs out, Segments (processTransitionItem cfg sp) items segs out →
      HoldersOnly cfg reg items segs) ↔
    ∀ i item, items[i]? = some item → Safe cfg (reg i) sp item := by
  constructor
  · intro h i item hitem
    by_contra hnot
    obtain ⟨seg, he, hsees, hbad⟩ := breaks_of_not_safe hnot
    obtain ⟨segs, hsegs, hseg⟩ := exists_segments (transitionItem_completes cfg sp) hitem he
    exact hbad (h segs _ hsegs i item seg hitem hseg hsees)
  · intro hsafe segs out hsegs i item seg hitem hseg hsees
    obtain ⟨r, he⟩ := hsegs.exec hitem hseg
    exact transition_holderOnly (hsafe i item hitem) hsees ((transitionItem_yields sp item).exec he)

theorem drain_holders (cfg : ProcessorConfig) (items : List ParsedMessage) (reg : ℕ → Registry)
    {segs : List (List RoutingEvent)} {out : Option Unit}
    (hsegs : Segments (drainRetryItem cfg) items segs out) : HoldersOnly cfg reg items segs := by
  intro i item seg hitem hseg hsees
  obtain ⟨r, he⟩ := hsegs.exec hitem hseg
  exact drained_holderOnly hsees ((drainRetryItem_yields item).exec he)

theorem heartbeatAll_may (msgs : List Msg) :
    May (heartbeatAll msgs) fun out _ => out = some () := by
  induction msgs with
  | nil => rfl
  | cons m rest ih => exact ⟨true, ih⟩

def Loops (f : ParsedMessage → Routine Unit) (items : List ParsedMessage)
    (t : List RoutingEvent) (segs : List (List RoutingEvent)) : Prop :=
  ∃ before out, t = before ++ segs.flatten ∧ callsIn before = [] ∧ Segments f items segs out

def movedProvider : StoredProvider := ⟨"q1", "q", "http://q", "vm", "external"⟩

def queuedCreate : ParsedMessage := vmItem 1 typeRequestCreate "r"

def transitionRun (a : Answers) : List RoutingEvent × Option Unit × SharedState :=
  (processTransitionItems vmProcessor vmProvider [queuedCreate]).eval (handler a)
    ⟨.new 10, .new 10, .new⟩

theorem transitionRun_exec {a : Answers} (h : (transitionRun a).2.1 = some ()) :
    Exec (processTransitionItems vmProcessor vmProvider [queuedCreate]) (transitionRun a).1
      (some ()) :=
  h ▸ Prog.exec_eval _ _ _

end ForwardTarget
