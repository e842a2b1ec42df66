import EnvironmentAgent.RoutingForwarder

/-! # Traces of the routing programs

The views of a trace that specifications speak of, the resolution of a provider and the attempts of
one forward. -/
namespace RoutingTraces

open AtomicPrograms RoutingCloudEvent RoutingEffects
open RoutingForwarder (resolveProvider ForwardErr spCallOf forwardAttempts IsContext
  StoreErr Resolves Registry)

inductive Resolution where
  | ack
  | nak
  | nakWithDelay
  | term
  deriving DecidableEq, Repr

@[simp] def callOf : RoutingEvent → Option (SPCall × SPResult)
  | ⟨.sp c, x⟩ => some (c, x)
  | _ => none

@[simp] def emissionOf : RoutingEvent → Option (String × ResponseData)
  | ⟨.publishCE ceType d, _⟩ => some (ceType, d)
  | _ => none

@[simp] def resolutionOf : RoutingEvent → Option (Msg × Resolution)
  | ⟨.ack m, _⟩ => some (m, .ack)
  | ⟨.nak m, _⟩ => some (m, .nak)
  | ⟨.nakWithDelay m, _⟩ => some (m, .nakWithDelay)
  | ⟨.term m, _⟩ => some (m, .term)
  | _ => none

def callsIn (t : List RoutingEvent) : List (SPCall × SPResult) := t.filterMap callOf
def emissions (t : List RoutingEvent) : List (String × ResponseData) := t.filterMap emissionOf
def resolutions (t : List RoutingEvent) : List (Msg × Resolution) := t.filterMap resolutionOf

@[simp] theorem callsIn_append (t u : List RoutingEvent) :
    callsIn (t ++ u) = callsIn t ++ callsIn u := List.filterMap_append
@[simp] theorem emissions_append (t u : List RoutingEvent) :
    emissions (t ++ u) = emissions t ++ emissions u := List.filterMap_append
@[simp] theorem resolutions_append (t u : List RoutingEvent) :
    resolutions (t ++ u) = resolutions t ++ resolutions u := List.filterMap_append

@[simp] theorem callsIn_nil : callsIn [] = [] := rfl
@[simp] theorem emissions_nil : emissions [] = [] := rfl
@[simp] theorem resolutions_nil : resolutions [] = [] := rfl

@[simp] theorem callsIn_cons (e : RoutingEvent) (t : List RoutingEvent) :
    callsIn (e :: t) = (callOf e).toList ++ callsIn t := by
  rw [callsIn, List.filterMap_cons]
  cases callOf e <;> rfl
@[simp] theorem emissions_cons (e : RoutingEvent) (t : List RoutingEvent) :
    emissions (e :: t) = (emissionOf e).toList ++ emissions t := by
  rw [emissions, List.filterMap_cons]
  cases emissionOf e <;> rfl
@[simp] theorem resolutions_cons (e : RoutingEvent) (t : List RoutingEvent) :
    resolutions (e :: t) = (resolutionOf e).toList ++ resolutions t := by
  rw [resolutions, List.filterMap_cons]
  cases resolutionOf e <;> rfl

structure Shows (t : List RoutingEvent) (calls : List (SPCall × SPResult))
    (ces : List (String × ResponseData)) (res : List (Msg × Resolution)) : Prop where
  calls : callsIn t = calls
  emissions : emissions t = ces
  resolutions : resolutions t = res

variable {t : List RoutingEvent}

theorem Shows.append {u : List RoutingEvent} {calls calls' : List (SPCall × SPResult)}
    {ces ces' : List (String × ResponseData)} {res res' : List (Msg × Resolution)}
    (ht : Shows t calls ces res) (hu : Shows u calls' ces' res') :
    Shows (t ++ u) (calls ++ calls') (ces ++ ces') (res ++ res') :=
  ⟨by simp [ht.calls, hu.calls], by simp [ht.emissions, hu.emissions],
    by simp [ht.resolutions, hu.resolutions]⟩

abbrev Clear (t : List RoutingEvent) : Prop := Shows t [] [] []

theorem resolves_clear {serviceType : String}
    {result : Except StoreErr (Option (StoredProvider × ProviderStatus))}
    (h : Resolves serviceType t result) : Clear t := by
  cases h <;> exact ⟨rfl, rfl, rfl⟩

def IsSilent : Op → Prop
  | .add _ _ | .addIfAbsent _ _ | .contains _ _ | .consume _ _ | .remove _ _ => True
  | .lockAddIfAbsent _ | .lockRemove _ | .ctxErr | .backoffTimer _ => True
  | _ => False

def IsForwarding : Op → Prop
  | .sp _ | .publishCE _ _ => True
  | o => IsSilent o

def Silent (t : List RoutingEvent) : Prop := ∀ e ∈ t, IsSilent e.1

theorem Silent.no_calls (h : Silent t) : callsIn t = [] := by
  refine List.filterMap_eq_nil_iff.mpr ?_
  rintro ⟨o, x⟩ he
  cases o <;> first | rfl | exact (h _ he).elim

theorem Silent.no_emissions (h : Silent t) : emissions t = [] := by
  refine List.filterMap_eq_nil_iff.mpr ?_
  rintro ⟨o, x⟩ he
  cases o <;> first | rfl | exact (h _ he).elim

theorem Silent.append {u : List RoutingEvent} (ht : Silent t) (hu : Silent u) :
    Silent (t ++ u) := by
  simpa [Silent, or_imp, forall_and] using ⟨ht, hu⟩

def Forwarding (t : List RoutingEvent) : Prop := ∀ e ∈ t, IsForwarding e.1

theorem Forwarding.append {u : List RoutingEvent} (ht : Forwarding t) (hu : Forwarding u) :
    Forwarding (t ++ u) := by
  simpa [Forwarding, or_imp, forall_and] using ⟨ht, hu⟩

theorem Silent.forwarding (h : Silent t) : Forwarding t := by
  rintro ⟨o, x⟩ he
  have ho := h _ he
  cases o <;> first | exact ho | trivial

theorem Forwarding.no_resolutions (h : Forwarding t) :
    resolutions t = [] := by
  refine List.filterMap_eq_nil_iff.mpr ?_
  rintro ⟨o, x⟩ he
  cases o <;> first | rfl | exact (h _ he).elim

theorem Forwarding.sees (h : Forwarding t) (reg : Registry) :
    reg.Sees t := by
  refine Registry.sees_of_not_read ?_
  rintro ⟨o, x⟩ he hread
  have ho := h _ he
  cases o <;> first | exact hread | exact ho

structure Attempts (call : SPCall) (t : List RoutingEvent) (out : Option (Option ForwardErr)) :
    Prop where
  within : ∀ e ∈ t, e.1 = .sp call ∨ IsContext e.1
  outcome : match out with
    | none => (call, .panicked) ∈ callsIn t
    | some none => (call, .ok) ∈ callsIn t
    | some (some .context) => ∃ e, (call, .err e) ∈ callsIn t
    | some (some (.sp e)) => (call, .err e) ∈ callsIn t

variable {out : Option (Option ForwardErr)} {call : SPCall}

theorem Attempts.again {e : SPError} {attempt : ℕ} (h : Attempts call t out) :
    Attempts call (⟨.sp call, .err e⟩ :: ⟨.ctxErr, false⟩ :: ⟨.backoffTimer attempt, false⟩ :: t)
      out where
  within := by
    simp only [List.mem_cons]
    rintro _ (rfl | rfl | rfl | h')
    · exact .inl rfl
    · exact .inr trivial
    · exact .inr trivial
    · exact h.within _ h'
  outcome := by
    have h' := h.outcome
    match out with
    | none => exact List.mem_cons_of_mem _ h'
    | some none => exact List.mem_cons_of_mem _ h'
    | some (some .context) => exact h'.imp fun _ he => List.mem_cons_of_mem _ he
    | some (some (.sp e)) => exact List.mem_cons_of_mem _ h'

theorem forwardAttempts_yields (sp : StoredProvider) (params : RoutingForwarder.ForwardParams)
    (left attempt : ℕ) :
    Yields (forwardAttempts sp params left attempt) fun out t =>
      Attempts (spCallOf sp params) t out := by
  induction left using Nat.strongRecOn generalizing attempt with
  | ind left ih =>
    unfold forwardAttempts
    refine fun x => ?_
    cases x with
    | ok => exact ⟨by simp, by simp⟩
    | panicked => exact ⟨by simp, by simp⟩
    | err e =>
      refine fun ended => ?_
      cases ended with
      | true => exact ⟨by simp [IsContext], by simp⟩
      | false =>
        split
        · exact ⟨by simp [IsContext], by simp⟩
        · cases left with
          | zero => exact ⟨by simp [IsContext], by simp⟩
          | succ left =>
            refine fun ended => ?_
            cases ended with
            | true => exact ⟨by simp [IsContext], by simp⟩
            | false => exact (ih left (Nat.lt_succ_self left) _).mono fun _ _ h => h.again

theorem Attempts.calls (h : Attempts call t out) : ∀ c ∈ callsIn t, c.1 = call := by
  intro c hc
  obtain ⟨⟨o, x⟩, he, hsome⟩ := List.mem_filterMap.mp hc
  rcases h.within _ he with ho | ho
  · subst ho
    cases hsome
    rfl
  · cases o <;> first | exact ho.elim | cases hsome

theorem Attempts.no_emissions (h : Attempts call t out) : emissions t = [] := by
  refine List.filterMap_eq_nil_iff.mpr ?_
  rintro ⟨o, x⟩ he
  rcases h.within _ he with ho | ho
  · subst ho
    rfl
  · cases o <;> first | rfl | exact ho.elim

theorem Attempts.forwarding (h : Attempts call t out) : Forwarding t := by
  rintro ⟨o, x⟩ he
  rcases h.within _ he with ho | ho
  · subst ho
    trivial
  · cases o <;> trivial

theorem resolveProvider_yields (serviceType : String) :
    Yields (resolveProvider serviceType) fun out t =>
      ∃ result, out = some result ∧ Resolves serviceType t result := by
  refine fun name => ?_
  match name with
  | none => exact ⟨_, rfl, .unregistered⟩
  | some name =>
    refine fun found => ?_
    match found with
    | .error e => exact ⟨_, rfl, .storeError name e⟩
    | .ok none => exact ⟨_, rfl, .missing name⟩
    | .ok (some sp) =>
      change Yields (if sp.id = "" then _ else _) _
      split
      · exact ⟨_, rfl, .corrupt name sp ‹_›⟩
      · refine fun status => ?_
        match status with
        | none => exact ⟨_, rfl, .tracked name sp ‹_› none⟩
        | some status => exact ⟨_, rfl, .tracked name sp ‹_› (some status)⟩

end RoutingTraces
